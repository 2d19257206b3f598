import ProxyBridge.Foundation.Bytes
import ProxyBridge.Foundation.Runs

namespace Foundation

universe u v

/-!
# Sessions over a byte stream

One end of a TCP connection sees the bytes of its peer cut into segments, and
its own writes either go through or fail.  A `TcpStream` fixes both in advance:
the segments still to come, how the stream ends after them, and which writes
succeed.  It also records what was written and received, in order.

A session reads and writes, and stops at the first error.  `Ensures` is the
rule of pre- and postconditions for sessions; `Conserves` says that a session
neither drops nor repeats a byte of its peer, and composes the same way.
-/

inductive StreamEvent where
  | wrote (message : Octets)
  | received (bytes : Octets)

/-- What a read meets after the last byte: the end of the stream, or an
error. -/
inductive Ending where
  | closed
  | reset
  deriving DecidableEq

structure TcpStream where
  incoming : List Octets
  ending : Ending
  /-- Whether the write with this number goes through. -/
  writable : Nat -> Bool
  trace : List StreamEvent

namespace TcpStream

/-- A connection on which nothing has been exchanged. -/
def opened (incoming : List Octets) (ending : Ending) (writable : Nat -> Bool) : TcpStream where
  incoming := incoming
  ending := ending
  writable := writable
  trace := []

/-- The bytes of the peer that have not been read. -/
def pending (stream : TcpStream) : Octets :=
  stream.incoming.flatten

def isWrite : StreamEvent -> Bool
  | .wrote _ => true
  | .received _ => false

/-- The number of writes so far. -/
def writes (stream : TcpStream) : Nat :=
  stream.trace.countP isWrite

/-- The bytes of a trace that were received. -/
def receivedBytes : List StreamEvent -> Octets
  | [] => []
  | .wrote _ :: rest => receivedBytes rest
  | .received bytes :: rest => bytes ++ receivedBytes rest

theorem receivedBytes_append (first second : List StreamEvent) :
    receivedBytes (first ++ second) = receivedBytes first ++ receivedBytes second := by
  induction first with
  | nil => rfl
  | cons event rest ih =>
      cases event with
      | wrote message => exact ih
      | received bytes =>
          change bytes ++ receivedBytes (rest ++ second) = (bytes ++ receivedBytes rest) ++ _
          rw [ih, List.append_assoc]

/-- Every byte of the peer, read or not. -/
def allBytes (stream : TcpStream) : Octets :=
  receivedBytes stream.trace ++ stream.pending

/-- Record a message. -/
def sent (stream : TcpStream) (message : Octets) : TcpStream :=
  { stream with trace := stream.trace ++ [.wrote message] }

/-- Record bytes and leave the given segments. -/
def took (stream : TcpStream) (bytes : Octets) (incoming : List Octets) : TcpStream :=
  { stream with incoming := incoming, trace := stream.trace ++ [.received bytes] }

/-- Collect `count` bytes from as many segments as it takes; fewer when the
segments run out. -/
def fill : Nat -> List Octets -> Octets × List Octets
  | 0, segments => ([], segments)
  | _ + 1, [] => ([], [])
  | count + 1, segment :: rest =>
      if segment.length ≤ count + 1 then
        let later := fill (count + 1 - segment.length) rest
        (segment ++ later.1, later.2)
      else (segment.take (count + 1), segment.drop (count + 1) :: rest)

/-- Only the bytes matter to `fill`, not where they were cut. -/
theorem fill_eq (count : Nat) (segments : List Octets) :
    (fill count segments).1 = segments.flatten.take count ∧
      (fill count segments).2.flatten = segments.flatten.drop count := by
  induction segments generalizing count with
  | nil =>
      cases count with
      | zero => exact ⟨rfl, rfl⟩
      | succ count => exact ⟨rfl, rfl⟩
  | cons segment rest ih =>
      cases count with
      | zero => exact ⟨rfl, rfl⟩
      | succ count =>
          rw [fill, List.flatten_cons]
          by_cases short : segment.length ≤ count + 1
          · have later := ih (count + 1 - segment.length)
            rw [if_pos short, List.take_append, List.drop_append, List.take_of_length_le short,
              List.drop_of_length_le short, ← later.1, ← later.2]
            exact ⟨rfl, rfl⟩
          · have inside : count + 1 ≤ segment.length := by omega
            rw [if_neg short, List.take_append_of_le_length inside,
              List.drop_append_of_le_length inside]
            exact ⟨rfl, rfl⟩

/-- The first segment that is not empty, and those after it. -/
def nextSegment : List Octets -> Option (Octets × List Octets)
  | [] => none
  | [] :: rest => nextSegment rest
  | segment :: rest => some (segment, rest)

/-- What a single read of at most `count` bytes returns. -/
def firstRead (count : Nat) (segments : List Octets) : Octets :=
  match nextSegment segments with
  | some (segment, _) => segment.take count
  | none => []

theorem flatten_of_nextSegment {segments rest : List Octets} {segment : Octets}
    (found : nextSegment segments = some (segment, rest)) :
    segments.flatten = segment ++ rest.flatten := by
  induction segments with
  | nil => cases found
  | cons first segments ih =>
      cases first with
      | nil => exact ih found
      | cons b first =>
          cases found
          rfl

theorem flatten_of_nextSegment_eq_none {segments : List Octets}
    (missing : nextSegment segments = none) : segments.flatten = [] := by
  induction segments with
  | nil => rfl
  | cons first segments ih =>
      cases first with
      | nil => exact ih missing
      | cons b first => cases missing

theorem ne_nil_of_nextSegment {segments rest : List Octets} {segment : Octets}
    (found : nextSegment segments = some (segment, rest)) : segment ≠ [] := by
  induction segments with
  | nil => cases found
  | cons first segments ih =>
      cases first with
      | nil => exact ih found
      | cons b first =>
          cases found
          exact List.cons_ne_nil b first

/-- A single read returns a beginning of the stream. -/
theorem firstRead_prefix (count : Nat) (segments : List Octets) :
    firstRead count segments <+: segments.flatten.take count := by
  unfold firstRead
  cases found : nextSegment segments with
  | none => exact List.nil_prefix
  | some entry =>
      rcases entry with ⟨segment, rest⟩
      rw [flatten_of_nextSegment found]
      exact (List.prefix_append _ _).take count

/-- A read returns nothing at the end of the stream only. -/
theorem flatten_of_firstRead_eq_nil {count : Nat} (positive : 0 < count) {segments : List Octets}
    (nothing : firstRead count segments = []) : segments.flatten = [] := by
  unfold firstRead at nothing
  cases found : nextSegment segments with
  | none => exact flatten_of_nextSegment_eq_none found
  | some entry =>
      rw [found] at nothing
      rcases List.take_eq_nil_iff.mp nothing with zero | empty
      · omega
      · exact absurd empty (ne_nil_of_nextSegment found)

/-- An uncut stream is read as far as it fits. -/
theorem firstRead_uncut (count : Nat) (bytes : Octets) :
    firstRead count [bytes] = bytes.take count := by
  cases bytes with
  | nil => exact List.take_nil.symm
  | cons b bytes => rfl

/-- Byte by byte, no read returns more than one. -/
theorem firstRead_singletons (count : Nat) (bytes : Octets) :
    (firstRead count (bytes.map (fun b => [b]))).length ≤ 1 := by
  cases bytes with
  | nil => exact Nat.zero_le 1
  | cons b bytes => exact List.length_take_le' count [b]

end TcpStream

/-! ## Sessions -/

/-- A computation over a stream that stops at the first error. -/
def Session (E A : Type) : Type :=
  TcpStream -> Except E A × TcpStream

namespace Session

variable {E A B : Type}

instance : Monad (Session E) where
  pure value := fun stream => (.ok value, stream)
  bind first next := fun stream =>
    match first stream with
    | (.ok value, later) => next value later
    | (.error error, later) => (.error error, later)

theorem bind_run (first : Session E B) (next : B -> Session E A) (stream : TcpStream) :
    (first >>= next) stream =
      match first stream with
      | (.ok value, later) => next value later
      | (.error error, later) => (.error error, later) :=
  rfl

/-- `bail!` -/
def fail (error : E) : Session E A :=
  fun stream => (.error error, stream)

/-- `write_all` -/
def writeAll (message : Octets) (error : E) : Session E Unit :=
  fun stream =>
    (if stream.writable stream.writes then .ok () else .error error, stream.sent message)

/-- `read_exact` on a buffer of `count` bytes. -/
def readExact (count : Nat) (error : E) : Session E Octets :=
  fun stream =>
    let filled := TcpStream.fill count stream.incoming
    (if filled.1.length = count then .ok filled.1 else .error error,
      stream.took filled.1 filled.2)

/-- A single `read` into a buffer of `count` bytes: what is left of the next
segment, as far as it fits. -/
def read (count : Nat) (error : E) : Session E Octets :=
  fun stream =>
    match TcpStream.nextSegment stream.incoming with
    | some (segment, rest) =>
        (.ok (segment.take count), stream.took (segment.take count) (segment.drop count :: rest))
    | none =>
        match stream.ending with
        | .closed => (.ok [], stream.took [] [])
        | .reset => (.error error, stream)

/-- The session, started on this stream, ends in a result and a stream with
the given property. -/
def Ensures (session : Session E A) (stream : TcpStream)
    (post : Except E A -> TcpStream -> Prop) : Prop :=
  post (session stream).1 (session stream).2

section Rules

variable {stream : TcpStream} {post : Except E A -> TcpStream -> Prop}

/-- The second session starts where the first one ended, unless that was an
error. -/
theorem ensures_bind {first : Session E B} {next : B -> Session E A}
    (held : Ensures first stream (fun result later =>
      match result with
      | .ok value => Ensures (next value) later post
      | .error error => post (.error error) later)) :
    Ensures (first >>= next) stream post := by
  unfold Ensures at held ⊢
  rw [bind_run]
  revert held
  rcases first stream with ⟨result, later⟩
  intro held
  cases result with
  | ok value => exact held
  | error error => exact held

theorem ensures_ite {condition : Prop} [Decidable condition] {first second : Session E A}
    (positive : condition -> Ensures first stream post)
    (negative : Not condition -> Ensures second stream post) :
    Ensures (if condition then first else second) stream post := by
  by_cases held : condition
  · rw [if_pos held]
    exact positive held
  · rw [if_neg held]
    exact negative held

theorem ensures_mono {session : Session E A} {weaker : Except E A -> TcpStream -> Prop}
    (held : Ensures session stream post)
    (weaken : forall result later, post result later -> weaker result later) :
    Ensures session stream weaker :=
  weaken _ _ held

theorem ensures_writeAll {message : Octets} {error : E} {post : Except E Unit -> TcpStream -> Prop}
    (through : stream.writable stream.writes = true -> post (.ok ()) (stream.sent message))
    (broken : stream.writable stream.writes = false -> post (.error error) (stream.sent message)) :
    Ensures (writeAll message error) stream post := by
  unfold Ensures writeAll
  cases outcome : stream.writable stream.writes with
  | true => exact through outcome
  | false => exact broken outcome

theorem ensures_readExact {count : Nat} {error : E} {post : Except E Octets -> TcpStream -> Prop}
    (enough : count ≤ stream.pending.length -> forall incoming,
      incoming.flatten = stream.pending.drop count ->
        post (.ok (stream.pending.take count)) (stream.took (stream.pending.take count) incoming))
    (short : stream.pending.length < count -> forall incoming, incoming.flatten = [] ->
      post (.error error) (stream.took stream.pending incoming)) :
    Ensures (readExact count error) stream post := by
  have filled := TcpStream.fill_eq count stream.incoming
  change _ = stream.pending.take count ∧ _ = stream.pending.drop count at filled
  unfold Ensures readExact
  simp only [filled.1, List.length_take]
  by_cases long : count ≤ stream.pending.length
  · rw [if_pos (Nat.min_eq_left long)]
    exact enough long _ filled.2
  · have missing : stream.pending.length < count := by omega
    rw [if_neg (by omega), List.take_of_length_le (by omega)]
    apply short missing
    rw [filled.2, List.drop_of_length_le (by omega)]

theorem ensures_writeAll_of_writable {message : Octets} {error : E}
    {post : Except E Unit -> TcpStream -> Prop} (through : stream.writable stream.writes = true)
    (held : post (.ok ()) (stream.sent message)) : Ensures (writeAll message error) stream post := by
  apply ensures_writeAll
  · intro _
    exact held
  · intro broken
    rw [through] at broken
    cases broken

/-- Reading bytes that are known to come next. -/
theorem ensures_readExact_of_pending {count : Nat} {error : E} (chunk rest : Octets)
    {post : Except E Octets -> TcpStream -> Prop} (known : stream.pending = chunk ++ rest)
    (size : chunk.length = count)
    (held : forall incoming, incoming.flatten = rest ->
      post (.ok chunk) (stream.took chunk incoming)) :
    Ensures (readExact count error) stream post := by
  apply ensures_readExact
  · intro _ incoming left
    rw [known, ← size, List.drop_left] at left
    rw [known, ← size, List.take_left]
    exact held incoming left
  · intro short
    rw [known, List.length_append] at short
    omega

/-- A read returns the beginning of the next segment, nothing at the end of
the stream, or an error. -/
theorem ensures_read {count : Nat} {error : E} {post : Except E Octets -> TcpStream -> Prop}
    (succeeded : forall incoming,
      TcpStream.firstRead count stream.incoming ++ incoming.flatten = stream.pending ->
        post (.ok (TcpStream.firstRead count stream.incoming))
          (stream.took (TcpStream.firstRead count stream.incoming) incoming))
    (failed : TcpStream.firstRead count stream.incoming = [] -> post (.error error) stream) :
    Ensures (read count error) stream post := by
  unfold TcpStream.firstRead at succeeded failed
  unfold Ensures read
  cases found : TcpStream.nextSegment stream.incoming with
  | none =>
      rw [found] at succeeded failed
      cases stream.ending with
      | closed => exact succeeded [] (TcpStream.flatten_of_nextSegment_eq_none found).symm
      | reset => exact failed rfl
  | some entry =>
      rcases entry with ⟨segment, rest⟩
      rw [found] at succeeded
      apply succeeded
      rw [List.flatten_cons, ← List.append_assoc, List.take_append_drop]
      exact (TcpStream.flatten_of_nextSegment found).symm

end Rules

/-- The session neither reads nor writes. -/
def Still (session : Session E A) : Prop :=
  forall stream, (session stream).2 = stream

theorem still_pure (value : A) : Still (pure value : Session E A) :=
  fun _ => rfl

theorem still_fail (error : E) : Still (fail error : Session E A) :=
  fun _ => rfl

theorem still_ite {condition : Prop} [Decidable condition] {first second : Session E A}
    (positive : Still first) (negative : Still second) :
    Still (if condition then first else second) := by
  by_cases held : condition
  · rw [if_pos held]
    exact positive
  · rw [if_neg held]
    exact negative

/-- Two checks in front of a result. -/
theorem still_checks {condition another : Prop} [Decidable condition] [Decidable another]
    (error other : E) (value : A) :
    Still (if condition then fail error else if another then fail other else pure value) :=
  still_ite (still_fail _) (still_ite (still_fail _) (still_pure _))

theorem ensures_still {session : Session E A} {stream : TcpStream}
    {post : Except E A -> TcpStream -> Prop} (still : Still session)
    (held : post (session stream).1 stream) : Ensures session stream post := by
  unfold Ensures
  rw [still]
  exact held

/-- A session that fails under a condition succeeds only without it. -/
theorem ite_fail_eq_ok_iff {condition : Prop} [Decidable condition] {error : E}
    {session : Session E A} {stream : TcpStream} {value : A} :
    ((if condition then fail error else session) stream).1 = .ok value <->
      Not condition ∧ (session stream).1 = .ok value := by
  by_cases held : condition
  · rw [if_pos held]
    exact iff_of_false (fun impossible => by cases impossible) (fun both => both.1 held)
  · rw [if_neg held]
    exact (and_iff_right held).symm

/-! ## Conservation of the peer's bytes -/

/-- What the session has read and what it leaves make up what there was. -/
def Conserves (session : Session E A) : Prop :=
  forall stream, (session stream).2.allBytes = stream.allBytes

theorem conserves_of_still {session : Session E A} (still : Still session) :
    Conserves session := by
  intro stream
  rw [still]

theorem conserves_pure (value : A) : Conserves (pure value : Session E A) :=
  fun _ => rfl

theorem conserves_fail (error : E) : Conserves (fail error : Session E A) :=
  fun _ => rfl

theorem conserves_bind {first : Session E B} {next : B -> Session E A} (head : Conserves first)
    (tail : forall value, Conserves (next value)) : Conserves (first >>= next) := by
  intro stream
  have before := head stream
  rw [bind_run, ← before]
  rcases first stream with ⟨result, later⟩
  cases result with
  | ok value => exact tail value later
  | error error => rfl

theorem conserves_ite {condition : Prop} [Decidable condition] {first second : Session E A}
    (positive : Conserves first) (negative : Conserves second) :
    Conserves (if condition then first else second) := by
  by_cases held : condition
  · rw [if_pos held]
    exact positive
  · rw [if_neg held]
    exact negative

theorem allBytes_sent (stream : TcpStream) (message : Octets) :
    (stream.sent message).allBytes = stream.allBytes := by
  change TcpStream.receivedBytes (stream.trace ++ [.wrote message]) ++ stream.pending = _
  rw [TcpStream.receivedBytes_append]
  change (TcpStream.receivedBytes stream.trace ++ []) ++ stream.pending = _
  rw [List.append_nil]
  rfl

theorem allBytes_took {stream : TcpStream} {bytes : Octets} {incoming : List Octets}
    (split : bytes ++ incoming.flatten = stream.pending) :
    (stream.took bytes incoming).allBytes = stream.allBytes := by
  change TcpStream.receivedBytes (stream.trace ++ [.received bytes]) ++ incoming.flatten = _
  rw [TcpStream.receivedBytes_append]
  change (TcpStream.receivedBytes stream.trace ++ (bytes ++ [])) ++ incoming.flatten = _
  rw [List.append_nil, List.append_assoc, split]
  rfl

theorem conserves_writeAll (message : Octets) (error : E) : Conserves (writeAll message error) :=
  fun stream => allBytes_sent stream message

theorem conserves_read (count : Nat) (error : E) : Conserves (read count error) := by
  intro stream
  change Ensures _ stream (fun _ later => later.allBytes = stream.allBytes)
  apply ensures_read
  · intro incoming split
    exact allBytes_took split
  · intro _
    rfl

theorem conserves_readExact (count : Nat) (error : E) : Conserves (readExact count error) := by
  intro stream
  apply allBytes_took
  have filled := TcpStream.fill_eq count stream.incoming
  rw [filled.1, filled.2, List.take_append_drop]
  rfl

/-- Started on the same stream, the two sessions leave the same stream, and they
return the same value or both fail. -/
def Alike {F : Type} (first : Session E A) (second : Session F A) : Prop :=
  forall stream, (first stream).2 = (second stream).2 ∧
    forall value, (first stream).1 = .ok value <-> (second stream).1 = .ok value

section Alike

variable {F : Type}

theorem alike_pure (value : A) : Alike (pure value : Session E A) (pure value : Session F A) := by
  intro stream
  refine ⟨rfl, ?_⟩
  intro other
  change Except.ok value = .ok other <-> Except.ok value = .ok other
  rw [Except.ok.injEq, Except.ok.injEq]

theorem alike_fail (error : E) (other : F) :
    Alike (fail error : Session E A) (fail other : Session F A) := by
  intro stream
  refine ⟨rfl, ?_⟩
  intro value
  exact iff_of_false (fun impossible => by cases impossible) (fun impossible => by cases impossible)

theorem alike_writeAll (message : Octets) (error : E) (other : F) :
    Alike (writeAll message error) (writeAll message other) := by
  intro stream
  refine ⟨rfl, ?_⟩
  intro value
  unfold writeAll
  cases stream.writable stream.writes with
  | true => exact iff_of_true rfl rfl
  | false => exact (alike_fail error other stream).2 value

theorem alike_readExact (count : Nat) (error : E) (other : F) :
    Alike (readExact count error) (readExact count other) := by
  intro stream
  refine ⟨rfl, ?_⟩
  intro value
  simp only [readExact]
  by_cases enough : (TcpStream.fill count stream.incoming).1.length = count
  · rw [if_pos enough, if_pos enough]
    exact (alike_pure _ stream).2 value
  · rw [if_neg enough, if_neg enough]
    exact (alike_fail error other stream).2 value

theorem alike_ite {condition : Prop} [Decidable condition] {first other : Session E A}
    {second another : Session F A} (positive : Alike first second)
    (negative : Alike other another) :
    Alike (if condition then first else other) (if condition then second else another) := by
  by_cases held : condition
  · rw [if_pos held, if_pos held]
    exact positive
  · rw [if_neg held, if_neg held]
    exact negative

theorem alike_bind {first : Session E B} {second : Session F B} {next : B -> Session E A}
    {other : B -> Session F A} (head : Alike first second)
    (tail : forall value, Alike (next value) (other value)) :
    Alike (first >>= next) (second >>= other) := by
  intro stream
  have before := head stream
  rw [bind_run, bind_run]
  revert before
  rcases first stream with ⟨result, later⟩
  rcases second stream with ⟨another, sameLater⟩
  rintro ⟨same, agree⟩
  cases same
  cases result with
  | ok value =>
      have succeeded : another = .ok value := (agree value).mp rfl
      rw [succeeded]
      exact tail value later
  | error error =>
      cases another with
      | ok value => cases (agree value).mpr rfl
      | error failure => exact alike_fail error failure later

end Alike

end Session

/-- Every message of the trace was allowed by what had been exchanged before
it. -/
def EveryWrite (allowed : List StreamEvent -> Octets -> Prop) (trace : List StreamEvent) : Prop :=
  forall before message after, trace = before ++ .wrote message :: after -> allowed before message

section EveryWrite

variable {allowed : List StreamEvent -> Octets -> Prop}

theorem everyWrite_nil : EveryWrite allowed [] := by
  intro before message after same
  cases List.append_eq_nil_iff.mp same.symm |>.2

/-- Extending a trace by one event can only break the rule at that event. -/
theorem everyWrite_concat {trace : List StreamEvent} {event : StreamEvent}
    (held : EveryWrite allowed trace)
    (last : forall message, event = .wrote message -> allowed trace message) :
    EveryWrite allowed (trace ++ [event]) := by
  intro before message after same
  rcases concat_eq_append_cons same with ⟨_, whole, latest⟩ | ⟨rest, _, earlier⟩
  · rw [← whole]
    exact last message latest
  · exact held before message rest earlier

theorem everyWrite_wrote {trace : List StreamEvent} {message : Octets}
    (held : EveryWrite allowed trace) (may : allowed trace message) :
    EveryWrite allowed (trace ++ [.wrote message]) := by
  apply everyWrite_concat held
  intro other same
  cases same
  exact may

theorem everyWrite_received {trace : List StreamEvent} {bytes : Octets}
    (held : EveryWrite allowed trace) : EveryWrite allowed (trace ++ [.received bytes]) := by
  apply everyWrite_concat held
  intro other same
  cases same

end EveryWrite
end Foundation
