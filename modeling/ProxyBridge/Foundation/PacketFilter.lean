import ProxyBridge.Foundation.Bytes

namespace Foundation
namespace PacketFilter

universe u v w x y

/-!
# Packet filters

A packet filter keeps tables of chains, and a chain is a list of rules.  A rule is
a short program over registers: it loads fields of a packet, compares registers
with constants, and may end by queueing the packet or by redirecting its
connection.  Tables are changed by batches of messages.

The filter itself is a parameter (`Filter`), and two groups of laws say what is
relied on.  `TableLaws` is about what the messages of a batch make of one table;
such batches are put together by `Makes`.  `PassLaws` is about the expressions of
a rule, the rules of a chain and the chains of a table, in the order in which a
packet meets them.
-/

variable {Field : Type u} {Register : Type v}

inductive Expr (Field : Type u) (Register : Type v) where
  | load (field : Field) (into : Register)
  | cmpEq (register : Register) (data : Octets)
  | immediate (data : Octets) (into : Register)
  | queue (num : UInt16)
  | redir (port : Option Register)

abbrev Program (Field : Type u) (Register : Type v) :=
  List (Expr Field Register)

inductive Effect where
  | queue (num : UInt16)
  | redirect (port : Option UInt16)
  deriving DecidableEq

/-- A port number in a register stands in the order of the network. -/
def portIn (bytes : Octets) : UInt16 :=
  (Octets.fromBeBytes (bytes.take 2)).getD 0

inductive Kind where
  | filter
  | nat
  deriving DecidableEq

inductive Hook where
  | prerouting
  | input
  | forward
  | output
  | postrouting
  deriving DecidableEq

inductive Policy where
  | accept
  | drop
  deriving DecidableEq

/-- Where a chain stands and what it does with packets that no rule decides. -/
structure Stand where
  kind : Kind
  hook : Hook
  priority : Int
  policy : Policy
  deriving DecidableEq

structure Chain (Field : Type u) (Register : Type v) where
  stand : Stand
  rules : List (Program Field Register)

variable {TableName : Type x} {ChainName : Type y}

structure Table (ChainName : Type y) (Field : Type u) (Register : Type v) where
  chains : List (ChainName × Chain Field Register)

namespace Table

/-- The chains at a hook in the order of their priorities. -/
def chainsAt (table : Table ChainName Field Register) (hook : Hook) :
    List (Chain Field Register) :=
  ((table.chains.map Prod.snd).filter (fun chain => chain.stand.hook = hook)).insertionSort
    (fun first second => first.stand.priority ≤ second.stand.priority)

variable [DecidableEq ChainName]

def lookup (table : Table ChainName Field Register) (name : ChainName) :
    Option (Chain Field Register) :=
  (table.chains.find? (fun entry => entry.1 = name)).map Prod.snd

/-- The table with a new chain behind the others. -/
def withChain (table : Table ChainName Field Register) (name : ChainName) (stand : Stand) :
    Table ChainName Field Register :=
  ⟨table.chains ++ [(name, ⟨stand, []⟩)]⟩

/-- The table with a rule behind those of a chain. -/
def withRule (table : Table ChainName Field Register) (name : ChainName)
    (rule : Program Field Register) : Table ChainName Field Register :=
  ⟨table.chains.map (fun entry =>
    if entry.1 = name then (entry.1, { entry.2 with rules := entry.2.rules ++ [rule] }) else entry)⟩

end Table

/-- An entry may be added that is there already; one that is deleted must be
there. -/
inductive Message (TableName : Type x) (ChainName : Type y) (Field : Type u)
    (Register : Type v) where
  | addTable (table : TableName)
  | deleteTable (table : TableName)
  | addChain (table : TableName) (chain : ChainName) (stand : Stand)
  | addRule (table : TableName) (chain : ChainName) (rule : Program Field Register)

/-- What is decided for a connection with its first packet. -/
inductive NatDecision where
  | untouched
  | redirected (port : Option UInt16)
  deriving DecidableEq

/-- A packet on its way, and what is decided for its connection so far. -/
structure Passage (Packet : Type w) where
  packet : Packet
  nat : Option NatDecision

variable {Packet : Type w}

/-- The listeners of the queues: absent when nobody listens, and without a
packet when it is dropped. -/
abbrev Listeners (Packet : Type w) := UInt16 -> Option (Packet -> Option Packet)

/-- A queued packet goes on as its listener leaves it, and is lost when nobody
listens. -/
def Passage.enqueue (listeners : Listeners Packet) (passage : Passage Packet) (num : UInt16) :
    Option (Passage Packet) := do
  let answer ← listeners num
  let packet ← answer passage.packet
  return { passage with packet := packet }

/-- A chain looks at a packet unless it is a nat chain and the connection is
decided. -/
def Considers (chain : Chain Field Register) (passage : Passage Packet) : Prop :=
  chain.stand.kind ≠ .nat ∨ passage.nat = none

instance (chain : Chain Field Register) (passage : Passage Packet) :
    Decidable (Considers chain passage) :=
  inferInstanceAs (Decidable (_ ∨ _))

/-! ## The filter -/

/-- A filter and its rulesets.  A batch has no result when it is refused as a
whole, and a packet has none when it is lost. -/
structure Filter (TableName : Type x) (ChainName : Type y) (Field : Type u) (Register : Type v)
    (Packet : Type w) where
  Ruleset : Type (max u v x y)
  table : Ruleset -> TableName -> Option (Table ChainName Field Register)
  commit : Ruleset -> List (Message TableName ChainName Field Register) -> Option Ruleset
  /-- Whether a rule may stand in a chain. -/
  admits : Stand -> Program Field Register -> Prop
  load : Packet -> Field -> Octets
  /-- What the registers hold before a rule. -/
  blank : Register -> Octets
  evaluate : Packet -> (Register -> Octets) -> Program Field Register -> Option Effect
  passChain : Listeners Packet -> Chain Field Register -> Passage Packet ->
    Option (Passage Packet)
  passTable : Listeners Packet -> Table ChainName Field Register -> Hook -> Passage Packet ->
    Option (Passage Packet)

namespace Filter

variable (filter : Filter TableName ChainName Field Register Packet)

/-- From every ruleset with the table as it is before, the batch is carried out.
The table is then as it is after, and all other tables are as they were. -/
def Makes (name : TableName) (batch : List (Message TableName ChainName Field Register))
    (before after : Option (Table ChainName Field Register)) : Prop :=
  forall ruleset, filter.table ruleset name = before ->
    Exists fun later => filter.commit ruleset batch = some later ∧
      filter.table later name = after ∧
      forall other, other ≠ name -> filter.table later other = filter.table ruleset other

/-- The first rule with an effect on the packet decides. -/
def firstEffect (packet : Packet) (rules : List (Program Field Register)) : Option Effect :=
  rules.findSome? (filter.evaluate packet filter.blank)

/-- What batches make of the table with this name.  A batch is carried out message
by message, or not at all. -/
structure TableLaws [DecidableEq ChainName] (name : TableName) : Prop where
  nil : forall ruleset, filter.commit ruleset [] = some ruleset
  cons : forall ruleset message batch, filter.commit ruleset (message :: batch) =
    (filter.commit ruleset [message]).bind (fun later => filter.commit later batch)
  addTable : forall table, filter.Makes name [.addTable name] table (some (table.getD ⟨[]⟩))
  deleteTable : forall table, filter.Makes name [.deleteTable name] (some table) none
  deleteAbsent : forall ruleset, filter.table ruleset name = none ->
    filter.commit ruleset [.deleteTable name] = none
  addChain : forall table chain stand, table.lookup chain = none ->
    filter.Makes name [.addChain name chain stand] (some table)
      (some (table.withChain chain stand))
  addChainAgain : forall table name' chain, table.lookup name' = some chain ->
    filter.Makes name [.addChain name name' chain.stand] (some table) (some table)
  addRule : forall table name' chain rule, table.lookup name' = some chain ->
    filter.admits chain.stand rule ->
      filter.Makes name [.addRule name name' rule] (some table) (some (table.withRule name' rule))

/-- What happens to packets: expression by expression in a rule, rule by rule in a
chain, and chain by chain in a table. -/
structure PassLaws [DecidableEq Register] : Prop where
  load : forall packet registers field into rest,
    filter.evaluate packet registers (.load field into :: rest) =
      filter.evaluate packet (Function.update registers into (filter.load packet field)) rest
  /-- A comparison covers as many bytes as its constant has, and ends the rule when
  it fails. -/
  cmpEq : forall packet registers register data rest,
    filter.evaluate packet registers (.cmpEq register data :: rest) =
      if (registers register).take data.length = data then filter.evaluate packet registers rest
      else none
  immediate : forall packet registers data into rest,
    filter.evaluate packet registers (.immediate data into :: rest) =
      filter.evaluate packet (Function.update registers into data) rest
  queue : forall packet registers num rest,
    filter.evaluate packet registers (.queue num :: rest) = some (.queue num)
  redir : forall packet registers port rest,
    filter.evaluate packet registers (.redir (some port) :: rest) =
      some (.redirect (some (portIn (registers port))))
  notConsidered : forall listeners chain passage, Not (Considers chain passage) ->
    filter.passChain listeners chain passage = some passage
  undecided : forall listeners chain passage, Considers chain passage ->
    filter.firstEffect passage.packet chain.rules = none -> chain.stand.policy = .accept ->
      filter.passChain listeners chain passage = some passage
  queued : forall listeners chain passage num, Considers chain passage ->
    filter.firstEffect passage.packet chain.rules = some (.queue num) ->
      filter.passChain listeners chain passage = passage.enqueue listeners num
  redirected : forall listeners chain passage port, chain.stand.kind = .nat ->
    passage.nat = none ->
      filter.firstEffect passage.packet chain.rules = some (.redirect port) ->
        filter.passChain listeners chain passage =
          some { passage with nat := some (.redirected port) }
  /-- Chains at one hook are visited by priority; nothing is said about chains of
  the same priority. -/
  visits : forall listeners table hook passage,
    (table.chainsAt hook).Pairwise (fun first second =>
      first.stand.priority < second.stand.priority) ->
        filter.passTable listeners table hook passage =
          (table.chainsAt hook).foldlM (fun passage chain =>
            filter.passChain listeners chain passage) passage

/-- What somebody else does to the other tables, without looking at this one. -/
structure Foreign (name : TableName) where
  change : filter.Ruleset -> filter.Ruleset
  keeps : forall ruleset, filter.table (change ruleset) name = filter.table ruleset name
  blind : forall first second,
    (forall other, other ≠ name -> filter.table first other = filter.table second other) ->
      forall other, other ≠ name ->
        filter.table (change first) other = filter.table (change second) other

variable {filter} {name : TableName}

section Batches

variable [DecidableEq ChainName] (laws : filter.TableLaws name)
include laws

theorem makes_nil (table : Option (Table ChainName Field Register)) :
    filter.Makes name [] table table := by
  intro ruleset present
  exact ⟨ruleset, laws.nil ruleset, present, fun _ _ => rfl⟩

theorem makes_cons {message : Message TableName ChainName Field Register}
    {batch : List (Message TableName ChainName Field Register)}
    {before middle after : Option (Table ChainName Field Register)}
    (first : filter.Makes name [message] before middle)
    (rest : filter.Makes name batch middle after) :
    filter.Makes name (message :: batch) before after := by
  intro ruleset present
  rcases first ruleset present with ⟨between, carried, made, kept⟩
  rcases rest between made with ⟨later, carriedToo, madeToo, keptToo⟩
  refine ⟨later, ?_, madeToo, ?_⟩
  · rw [laws.cons, carried, Option.bind_some, carriedToo]
  · intro other different
    rw [keptToo other different, kept other different]

end Batches

/-- The same rules once more have no further effect. -/
theorem firstEffect_repeated (packet : Packet) (rules : List (Program Field Register))
    (count : Nat) :
    filter.firstEffect packet (List.replicate (count + 1) rules).flatten =
      filter.firstEffect packet rules := by
  unfold firstEffect
  induction count with
  | zero => rw [List.replicate_one, List.flatten_singleton]
  | succ count ih =>
      rw [List.replicate_succ, List.flatten_cons, List.findSome?_append, ih, Option.or_self]

end Filter
end PacketFilter
end Foundation
