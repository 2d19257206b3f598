import ProxyBridge.Foundation.Base64
import ProxyBridge.Foundation.Utf8

namespace Foundation
namespace HttpMessage

open Text Utf8

/-!
# Requests of HTTP/1.1

A request without a body is a block of lines: the request line, the header lines
and one blank line.  The reader takes such a block apart and accepts no other
bytes: a blank line before the end, or anything behind it, is refused.  It
recovers every request from its rendering as long as no part of the request
contains a character that delimits it.

An authority is an IPv4 address with a port, and basic credentials are a user
name and a password behind one another in base64.
-/

def crlf : Str :=
  ['\r', '\n']

def renderLines (lines : List Str) : Str :=
  lines.flatMap (fun line => line ++ crlf)

/-- The pieces between the line ends, of which there is one more than line
ends. -/
def splitLines : Str -> List Str
  | [] => [[]]
  | '\r' :: '\n' :: rest => [] :: splitLines rest
  | c :: rest => (splitLines rest).modifyHead (List.cons c)

theorem splitLines_append {line : Str} (clean : '\r' ∉ line) (rest : Str) :
    splitLines (line ++ crlf ++ rest) = line :: splitLines rest := by
  induction line with
  | nil => rfl
  | cons c line ih =>
      have other : c ≠ '\r' := by
        intro same
        rw [same] at clean
        exact clean List.mem_cons_self
      rw [List.cons_append, List.cons_append, splitLines,
        ih (List.not_mem_of_not_mem_cons clean), List.modifyHead_cons]
      intro tail same _
      exact other same

/-- Lines without carriage returns are recovered from their rendering. -/
theorem splitLines_renderLines {lines : List Str}
    (clean : forall line, line ∈ lines -> '\r' ∉ line) :
    splitLines (renderLines lines) = lines ++ [[]] := by
  induction lines with
  | nil => rfl
  | cons line lines ih =>
      change splitLines (line ++ crlf ++ renderLines lines) = _
      rw [splitLines_append (clean line List.mem_cons_self),
        ih (fun other member => clean other (List.mem_cons_of_mem line member))]
      rfl

theorem renderLines_append (first second : List Str) :
    renderLines (first ++ second) = renderLines first ++ renderLines second :=
  List.flatMap_append

structure Request where
  method : Str
  target : Str
  version : Str
  headers : List (Str × Str)
  deriving DecidableEq

namespace Request

def requestLine (request : Request) : Str :=
  request.method ++ ' ' :: request.target ++ ' ' :: request.version

def headerLine (header : Str × Str) : Str :=
  header.1 ++ ':' :: ' ' :: header.2

/-- The lines of a request, the blank one included. -/
def lines (request : Request) : List Str :=
  request.requestLine :: request.headers.map headerLine ++ [[]]

def render (request : Request) : Str :=
  renderLines request.lines

/-- The values of the headers with a name, which is compared without case. -/
def valuesOf (request : Request) (name : Str) : List Str :=
  (request.headers.filter (fun header => eqIgnoreAsciiCase header.1 name)).map Prod.snd

end Request

def readRequestLine (line : Str) : Option (Str × Str × Str) :=
  match split (fun c => c == ' ') line with
  | [method, target, version] => some (method, target, version)
  | _ => none

/-- A header line, without the blanks in front of the value. -/
def readHeader (line : Str) : Option (Str × Str) :=
  (splitOnce ':' line).map (fun parts => (parts.1, parts.2.dropWhile (fun c => c == ' ')))

/-- The request of a block of ASCII lines that has its only blank line at its
end. -/
def readRequest (bytes : Octets) : Option Request :=
  if bytes.all (fun b => b < 0x80) then
    match splitLines (bytes.map (fun b => Char.ofNat b.toNat)) with
    | [] => none
    | first :: rest =>
        if rest.dropWhile (fun line => line != []) = [[], []] then do
          let (method, target, version) ← readRequestLine first
          let headers ← (rest.takeWhile (fun line => line != [])).mapM readHeader
          return { method := method, target := target, version := version, headers := headers }
        else none
  else none

/-- A graphic ASCII character. -/
def isVisible (c : Char) : Bool :=
  0x21 ≤ c.toNat && c.toNat ≤ 0x7E

theorem isVisible_bounds {c : Char} (visible : isVisible c = true) :
    0x21 ≤ c.toNat ∧ c.toNat ≤ 0x7E := by
  simp only [isVisible, Bool.and_eq_true, decide_eq_true_eq] at visible
  exact visible

theorem isVisible_of_isDigit {c : Char} (digit : c.isDigit = true) : isVisible c = true := by
  have bounds := digit_bounds digit
  simp only [isVisible, Bool.and_eq_true, decide_eq_true_eq]
  omega

theorem ne_of_isVisible {c mark : Char} (visible : isVisible c = true)
    (hidden : isVisible mark = false) : c ≠ mark := by
  intro same
  rw [same, hidden] at visible
  cases visible

/-- A name has no colon, and a value may contain blanks but does not start with
one. -/
structure CleanHeader (header : Str × Str) : Prop where
  colon : ':' ∉ header.1
  name : forall c, c ∈ header.1 -> isVisible c = true
  start : forall c, header.2.head? = some c -> c ≠ ' '
  value : forall c, c ∈ header.2 -> c = ' ' ∨ isVisible c = true

structure Request.WellFormed (request : Request) : Prop where
  words : forall word, word ∈ [request.method, request.target, request.version] ->
    forall c, c ∈ word -> isVisible c = true
  headers : forall header, header ∈ request.headers -> CleanHeader header

section Reading

variable {request : Request}

theorem readRequestLine_requestLine (wellFormed : request.WellFormed) :
    readRequestLine request.requestLine =
      some (request.method, request.target, request.version) := by
  have joined : request.requestLine =
      joinWith request.method [(' ', request.target), (' ', request.version)] :=
    List.append_assoc _ _ _
  have pieces : split (fun c => c == ' ') (joinWith request.method
      [(' ', request.target), (' ', request.version)]) = _ :=
    split_joinWith_same ' ' request.method [request.target, request.version]
      (fun word member inside => ne_of_isVisible (wellFormed.words word member _ inside) rfl rfl)
  rw [readRequestLine, joined, pieces]

theorem readHeader_headerLine {header : Str × Str} (clean : CleanHeader header) :
    readHeader (Request.headerLine header) = some header := by
  have kept : (' ' :: header.2).dropWhile (fun c => c == ' ') = header.2 := by
    rw [List.dropWhile_cons_of_pos (by decide)]
    cases rest : header.2 with
    | nil => rfl
    | cons c tail =>
        have start := clean.start
        rw [rest] at start
        apply List.dropWhile_cons_of_neg
        intro blank
        exact start c rfl (beq_iff_eq.mp blank)
  rw [readHeader, Request.headerLine, splitOnce_append clean.colon, Option.map_some, kept]

theorem mapM_readHeader {headers : List (Str × Str)}
    (clean : forall header, header ∈ headers -> CleanHeader header) :
    (headers.map Request.headerLine).mapM readHeader = some headers := by
  induction headers with
  | nil => rfl
  | cons header headers ih =>
      rw [List.map_cons, List.mapM_cons, readHeader_headerLine (clean header List.mem_cons_self),
        ih (fun other member => clean other (List.mem_cons_of_mem header member))]
      rfl

/-- A header line is never blank. -/
theorem headerLine_ne_nil (header : Str × Str) : Request.headerLine header ≠ [] :=
  List.append_ne_nil_of_right_ne_nil _ (List.cons_ne_nil _ _)

/-- A line has graphic characters and blanks only. -/
theorem mem_line (wellFormed : request.WellFormed) {line : Str} (member : line ∈ request.lines)
    {c : Char} (inside : c ∈ line) : c = ' ' ∨ isVisible c = true := by
  have visible : isVisible ':' = true := rfl
  rcases List.mem_append.mp member with early | blank
  · rcases List.mem_cons.mp early with first | listed
    · have words := wellFormed.words
      simp only [List.mem_cons, List.not_mem_nil, or_false, forall_eq_or_imp, forall_eq] at words
      rw [first, Request.requestLine] at inside
      simp only [List.mem_append, List.mem_cons] at inside
      rcases inside with (method | blank | target) | blank | version
      · exact Or.inr (words.1 c method)
      · exact Or.inl blank
      · exact Or.inr (words.2.1 c target)
      · exact Or.inl blank
      · exact Or.inr (words.2.2 c version)
    · rcases List.mem_map.mp listed with ⟨header, known, same⟩
      rw [← same, Request.headerLine] at inside
      simp only [List.mem_append, List.mem_cons] at inside
      rcases inside with name | colon | blank | value
      · exact Or.inr ((wellFormed.headers header known).name c name)
      · exact Or.inr (colon ▸ visible)
      · exact Or.inl blank
      · exact (wellFormed.headers header known).value c value
  · rw [List.mem_singleton.mp blank] at inside
    exact absurd inside List.not_mem_nil

theorem clean_lines (wellFormed : request.WellFormed) {line : Str}
    (member : line ∈ request.lines) : '\r' ∉ line := by
  intro inside
  rcases mem_line wellFormed member inside with blank | visible
  · exact absurd blank (by decide)
  · cases visible

theorem ascii_render (wellFormed : request.WellFormed) {c : Char}
    (member : c ∈ request.render) : c.toNat < 128 := by
  rcases List.mem_flatMap.mp member with ⟨line, listed, inside⟩
  rcases List.mem_append.mp inside with here | ending
  · rcases mem_line wellFormed listed here with blank | visible
    · rw [blank]
      decide
    · have bounds := isVisible_bounds visible
      omega
  · rcases List.mem_cons.mp ending with carriage | feed
    · rw [carriage]
      decide
    · rw [List.mem_singleton.mp feed]
      decide

/-- The reader recovers a request from its rendering. -/
theorem readRequest_render (wellFormed : request.WellFormed) :
    readRequest (asBytes request.render) = some request := by
  have ascii : forall c, c ∈ request.render -> c.toNat < 128 := fun c => ascii_render wellFormed
  have text := asBytes_ascii ascii
  have low : (asBytes request.render).all (fun b => b < 0x80) = true := by
    rw [text]
    apply List.all_eq_true.mpr
    intro b member
    rcases List.mem_map.mp member with ⟨c, listed, same⟩
    have small := ascii c listed
    apply decide_eq_true
    rw [← same, UInt8.lt_iff_toNat_lt, UInt8.toNat_ofNat']
    change c.toNat % 256 < 128
    omega
  have decoded : (asBytes request.render).map (fun b => Char.ofNat b.toNat) = request.render := by
    have same : request.render.map ((fun b => Char.ofNat b.toNat) ∘ fun c => UInt8.ofNat c.toNat) =
        request.render.map id := by
      apply List.map_congr_left
      intro c member
      have small := ascii c member
      change Char.ofNat (UInt8.ofNat c.toNat).toNat = c
      rw [UInt8.toNat_ofNat', Nat.mod_eq_of_lt (by omega), Char.ofNat_toNat]
    rw [text, List.map_map, same, List.map_id]
  have pieces : splitLines request.render =
      request.requestLine :: (request.headers.map Request.headerLine ++ [[], []]) := by
    rw [Request.render, splitLines_renderLines (fun line => clean_lines wellFormed)]
    exact List.append_assoc (request.requestLine :: request.headers.map Request.headerLine) _ _
  have filled : forall line, line ∈ request.headers.map Request.headerLine ->
      (line != []) = true := by
    intro line member
    rcases List.mem_map.mp member with ⟨header, _, same⟩
    rw [← same]
    exact bne_iff_ne.mpr (headerLine_ne_nil header)
  have headers := mapM_readHeader wellFormed.headers
  rw [readRequest, if_pos low, decoded, pieces]
  simp only [List.dropWhile_append_of_pos filled, List.takeWhile_append_of_pos filled]
  have blank : [[], []].dropWhile (fun line : Str => line != []) = [[], []] := rfl
  rw [if_pos blank, readRequestLine_requestLine wellFormed]
  change ((request.headers.map Request.headerLine ++ []).mapM readHeader).bind _ = _
  rw [List.append_nil, headers]
  rfl

end Reading

/-! ## Authorities and credentials -/

/-- An IPv4 address in dotted-quad form, a colon and a port. -/
def readAuthority (s : Str) : Option (List UInt8 × UInt16) :=
  match splitOnce ':' s with
  | none => none
  | some (host, port) => do
      let quad ← (split (fun c => c == '.') host).mapM parseU8
      let number ← parseU16 port
      if quad.length = 4 then return (quad, number) else none

theorem readAuthority_decimal (b0 b1 b2 b3 : UInt8) (port : UInt16) :
    readAuthority ((decimal b0.toNat ++ '.' :: decimal b1.toNat ++ '.' :: decimal b2.toNat ++
        '.' :: decimal b3.toNat) ++ ':' :: decimal port.toNat) =
      some ([b0, b1, b2, b3], port) := by
  have joined : decimal b0.toNat ++ '.' :: decimal b1.toNat ++ '.' :: decimal b2.toNat ++
      '.' :: decimal b3.toNat = joinWith (decimal b0.toNat)
        [('.', decimal b1.toNat), ('.', decimal b2.toNat), ('.', decimal b3.toNat)] := by
    simp only [joinWith, List.append_assoc, List.cons_append]
  have digits : forall (n : Nat) (mark : Char), mark.isDigit = false -> mark ∉ decimal n :=
    fun n mark other => not_mem_decimal other
  have pieces : split (fun c => c == '.') (joinWith (decimal b0.toNat)
      [('.', decimal b1.toNat), ('.', decimal b2.toNat), ('.', decimal b3.toNat)]) =
        [decimal b0.toNat, decimal b1.toNat, decimal b2.toNat, decimal b3.toNat] := by
    apply split_joinWith_same '.' _ [decimal b1.toNat, decimal b2.toNat, decimal b3.toNat]
    intro piece member
    simp only [List.mem_cons, List.not_mem_nil, or_false] at member
    rcases member with rfl | rfl | rfl | rfl
    · exact digits _ _ (by decide)
    · exact digits _ _ (by decide)
    · exact digits _ _ (by decide)
    · exact digits _ _ (by decide)
  have colon : ':' ∉ joinWith (decimal b0.toNat)
      [('.', decimal b1.toNat), ('.', decimal b2.toNat), ('.', decimal b3.toNat)] := by
    simp only [joinWith, List.mem_append, List.mem_cons, not_or]
    exact ⟨digits _ _ (by decide), by decide, digits _ _ (by decide), by decide,
      digits _ _ (by decide), by decide, digits _ _ (by decide)⟩
  rw [readAuthority, joined, splitOnce_append colon]
  simp only [pieces, List.mapM_cons, List.mapM_nil, parseU8_decimal, parseU16_decimal]
  rfl

/-- The bytes in front of the first colon and those behind it. -/
def splitAtColon (bytes : Octets) : Option (Octets × Octets) :=
  match bytes.dropWhile (fun b => b != 58) with
  | [] => none
  | _ :: rest => some (bytes.takeWhile (fun b => b != 58), rest)

theorem splitAtColon_append {user : Octets} (clean : 58 ∉ user) (pass : Octets) :
    splitAtColon (user ++ 58 :: pass) = some (user, pass) := by
  have kept : forall b, b ∈ user -> (b != 58) = true := by
    intro b member
    apply bne_iff_ne.mpr
    intro same
    exact clean (same ▸ member)
  rw [splitAtColon, List.dropWhile_append_of_pos kept, List.takeWhile_append_of_pos kept]
  change some (user ++ [], pass) = _
  rw [List.append_nil]

/-- The user name and the password of basic credentials. -/
def readBasic (value : Str) : Option (Octets × Octets) :=
  match splitOnce ' ' value with
  | none => none
  | some (scheme, encoded) =>
      if scheme = "Basic".toList then (Base64.decode encoded).bind splitAtColon else none

theorem readBasic_encode {user : Str} (clean : ':' ∉ user) (pass : Str) :
    readBasic ("Basic".toList ++ ' ' :: Base64.encode (asBytes (user ++ ':' :: pass))) =
      some (asBytes user, asBytes pass) := by
  have bytes : asBytes (user ++ ':' :: pass) = asBytes user ++ 58 :: asBytes pass := by
    rw [asBytes_append, asBytes_cons (by decide)]
    rfl
  have colon : 58 ∉ asBytes user := fun member => clean (mem_asBytes_low member (by decide))
  rw [readBasic, splitOnce_append (by decide)]
  change (Base64.decode _).bind splitAtColon = _
  rw [Base64.decode_encode, Option.bind_some, bytes, splitAtColon_append colon]

end HttpMessage
end Foundation
