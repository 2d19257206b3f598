import ProxyBridge.Foundation.KeyedStore
import ProxyBridge.Foundation.PacketFilter

namespace Foundation
namespace PacketFilter

universe u v w x y

/-!
# A machine that keeps the laws of a packet filter

Rules are interpreted, chains and tables are walked through, and batches are
folded over a store of tables.  The machine shows that the laws can be kept, and
lets a model of a program be run.
-/

variable {Field : Type u} {Register : Type v} {Packet : Type w}
variable {TableName : Type x} {ChainName : Type y}

section Packets

variable [DecidableEq Register] (load : Packet -> Field -> Octets)

/-- The effect of a rule on a packet with these fields. -/
def runProgram (fields : Field -> Octets) :
    (Register -> Octets) -> Program Field Register -> Option Effect
  | _, [] => none
  | registers, .load field into :: rest =>
      runProgram fields (Function.update registers into (fields field)) rest
  | registers, .cmpEq register data :: rest =>
      if (registers register).take data.length = data then runProgram fields registers rest
      else none
  | registers, .immediate data into :: rest =>
      runProgram fields (Function.update registers into data) rest
  | _, .queue num :: _ => some (.queue num)
  | registers, .redir port :: _ =>
      some (.redirect (port.map (fun register => portIn (registers register))))

/-- What a chain does to a packet, once it looks at it. -/
def Stand.apply (listeners : Listeners Packet) (stand : Stand) (passage : Passage Packet) :
    Option Effect -> Option (Passage Packet)
  | some (.queue num) => passage.enqueue listeners num
  | some (.redirect port) =>
      if stand.kind = .nat then some { passage with nat := some (.redirected port) }
      else some passage
  | none => if stand.policy = .accept then some passage else none

def Chain.pass (listeners : Listeners Packet) (chain : Chain Field Register)
    (passage : Passage Packet) : Option (Passage Packet) :=
  if Considers chain passage then
    chain.stand.apply listeners passage
      (chain.rules.findSome? (runProgram (load passage.packet) (fun _ => [])))
  else some passage

end Packets

/-- Only nat chains may redirect. -/
def Expr.isRedir : Expr Field Register -> Bool
  | .redir _ => true
  | _ => false

def Kind.admits (kind : Kind) (rule : Program Field Register) : Bool :=
  kind = .nat || !rule.any Expr.isRedir

variable [DecidableEq ChainName]

namespace Table

/-- A chain that is there already must stand where it stood. -/
def addChain (table : Table ChainName Field Register) (name : ChainName) (stand : Stand) :
    Option (Table ChainName Field Register) :=
  match table.lookup name with
  | none => some (table.withChain name stand)
  | some chain => if chain.stand = stand then some table else none

def addRule (table : Table ChainName Field Register) (name : ChainName)
    (rule : Program Field Register) : Option (Table ChainName Field Register) :=
  (table.lookup name).bind (fun chain =>
    if chain.stand.kind.admits rule then some (table.withRule name rule) else none)

end Table

namespace Message

/-- The table that a message concerns. -/
def table : Message TableName ChainName Field Register -> TableName
  | .addTable table => table
  | .deleteTable table => table
  | .addChain table _ _ => table
  | .addRule table _ _ => table

/-- What a message makes of its table, absent when there is none; no result when
it is refused. -/
def change : Message TableName ChainName Field Register ->
    Option (Table ChainName Field Register) -> Option (Option (Table ChainName Field Register))
  | .addTable _, table => some (some (table.getD ⟨[]⟩))
  | .deleteTable _, some _ => some none
  | .addChain _ chain stand, some table => (table.addChain chain stand).map some
  | .addRule _ chain rule, some table => (table.addRule chain rule).map some
  | _, none => none

end Message

variable [DecidableEq TableName]

abbrev Tables (TableName : Type x) (ChainName : Type y) (Field : Type u) (Register : Type v) :=
  KeyedStore TableName (Table ChainName Field Register)

def carry (tables : Tables TableName ChainName Field Register)
    (message : Message TableName ChainName Field Register) :
    Option (Tables TableName ChainName Field Register) :=
  (message.change (tables.get message.table)).map (tables.assign message.table)

/-- All messages of a batch in order, or none of them. -/
def carryAll (tables : Tables TableName ChainName Field Register)
    (batch : List (Message TableName ChainName Field Register)) :
    Option (Tables TableName ChainName Field Register) :=
  batch.foldlM carry tables

theorem carryAll_singleton (tables : Tables TableName ChainName Field Register)
    (message : Message TableName ChainName Field Register) :
    carryAll tables [message] = carry tables message := by
  rw [carryAll, List.foldlM_cons]
  cases carry tables message with
  | none => rfl
  | some later => rfl

theorem carryAll_cons (tables : Tables TableName ChainName Field Register)
    (message : Message TableName ChainName Field Register)
    (batch : List (Message TableName ChainName Field Register)) :
    carryAll tables (message :: batch) =
      (carryAll tables [message]).bind (fun later => carryAll later batch) := by
  rw [carryAll_singleton, carryAll, List.foldlM_cons]
  rfl

/-! ## The machine -/

section Machine

variable [DecidableEq Register] (load : Packet -> Field -> Octets)

/-- The machine over a store of tables. -/
def machine : Filter TableName ChainName Field Register Packet where
  Ruleset := Tables TableName ChainName Field Register
  table := KeyedStore.get
  commit := carryAll
  admits := fun stand rule => stand.kind.admits rule = true
  load := load
  blank := fun _ => []
  evaluate := fun packet => runProgram (load packet)
  passChain := Chain.pass load
  passTable := fun listeners table hook passage =>
    (table.chainsAt hook).foldlM (fun passage chain => chain.pass load listeners passage) passage

variable {load}

/-- Somebody else sets or clears another table. -/
def assignOther (name other : TableName) (different : name ≠ other)
    (table : Option (Table ChainName Field Register)) :
    (machine load : Filter TableName ChainName Field Register Packet).Foreign name where
  change := fun (ruleset : Tables TableName ChainName Field Register) =>
    ruleset.assign other table
  keeps := fun (ruleset : Tables TableName ChainName Field Register) =>
    ruleset.get_assign_of_ne table different
  blind := by
    intro (first : Tables TableName ChainName Field Register)
      (second : Tables TableName ChainName Field Register) same third foreign
    change (first.assign other table).get third = (second.assign other table).get third
    by_cases changed : third = other
    · rw [changed, KeyedStore.get_assign_self, KeyedStore.get_assign_self]
    · rw [KeyedStore.get_assign_of_ne _ _ changed, KeyedStore.get_assign_of_ne _ _ changed]
      exact same third foreign

/-- A message about the table does what it makes of it. -/
theorem makes_of_change {message : Message TableName ChainName Field Register}
    {before after : Option (Table ChainName Field Register)}
    (changed : message.change before = some after) :
    (machine load : Filter TableName ChainName Field Register Packet).Makes message.table [message]
      before after := by
  intro (ruleset : Tables TableName ChainName Field Register) present
  change ruleset.get message.table = before at present
  refine ⟨ruleset.assign message.table after, ?_, KeyedStore.get_assign_self _ _ _, ?_⟩
  · change carryAll ruleset [message] = _
    rw [carryAll_singleton, carry, present, changed]
    rfl
  · intro other different
    exact KeyedStore.get_assign_of_ne _ _ different

theorem tableLaws_machine (name : TableName) :
    (machine load : Filter TableName ChainName Field Register Packet).TableLaws name where
  nil := fun _ => rfl
  cons := carryAll_cons
  addTable := fun table => @makes_of_change _ _ _ _ _ _ _ _ load (.addTable name) table _ rfl
  deleteTable := fun table =>
    @makes_of_change _ _ _ _ _ _ _ _ load (.deleteTable name) (some table) _ rfl
  deleteAbsent := by
    intro (ruleset : Tables TableName ChainName Field Register) absent
    change ruleset.get name = none at absent
    change carryAll ruleset [.deleteTable name] = none
    rw [carryAll_singleton, carry, Message.table, absent]
    rfl
  addChain := by
    intro table chain stand new
    apply @makes_of_change _ _ _ _ _ _ _ _ load (.addChain name chain stand)
    rw [Message.change, Table.addChain, new]
    rfl
  addChainAgain := by
    intro table chain known found
    apply @makes_of_change _ _ _ _ _ _ _ _ load (.addChain name chain known.stand)
    rw [Message.change, Table.addChain, found]
    exact congrArg (Option.map some) (if_pos rfl)
  addRule := by
    intro table chain known rule found admitted
    apply @makes_of_change _ _ _ _ _ _ _ _ load (.addRule name chain rule)
    rw [Message.change, Table.addRule, found, Option.bind_some]
    exact congrArg (Option.map some) (if_pos admitted)

theorem passLaws_machine :
    (machine load : Filter TableName ChainName Field Register Packet).PassLaws where
  load := fun _ _ _ _ _ => rfl
  cmpEq := fun _ _ _ _ _ => rfl
  immediate := fun _ _ _ _ _ => rfl
  queue := fun _ _ _ _ => rfl
  redir := fun _ _ _ _ => rfl
  notConsidered := fun _ _ _ ignores => if_neg ignores
  undecided := by
    intro listeners chain passage considers nothing accepts
    change chain.rules.findSome? (runProgram (load passage.packet) (fun _ => [])) = none at nothing
    change Chain.pass load listeners chain passage = _
    rw [Chain.pass, if_pos considers, nothing]
    exact if_pos accepts
  queued := by
    intro listeners chain passage num considers effect
    change chain.rules.findSome? (runProgram (load passage.packet) (fun _ => [])) = _ at effect
    change Chain.pass load listeners chain passage = _
    rw [Chain.pass, if_pos considers, effect]
    rfl
  redirected := by
    intro listeners chain passage port nat undecided effect
    change chain.rules.findSome? (runProgram (load passage.packet) (fun _ => [])) = _ at effect
    have considers : Considers chain passage := Or.inr undecided
    change Chain.pass load listeners chain passage = _
    rw [Chain.pass, if_pos considers, effect]
    exact if_pos nat
  visits := fun _ _ _ _ _ => rfl

end Machine

end PacketFilter
end Foundation
