import ProxyBridge.Core.RulePatterns
import ProxyBridge.Core.Socks5

namespace ProxyBridge

open Foundation Text Utf8 Session

/-!
# HTTP CONNECT

The client side of a `CONNECT` request: the request is written, the response is
taken from a single read, and its status line decides.  The base64 encoding of
the credentials is a parameter.

What one read returns depends on how the stream was cut.  The results say which
responses are accepted, and for which cuts the outcome is that of the uncut
stream.  A read of twelve bytes settles it: what follows changes neither a
success nor the text of an error.
-/

def connectRequest (base64Encode : Octets -> Str) (destIp : UInt32) (destPort : UInt16)
    (username password : Option Str) : Str :=
  let dest := formatIp destIp ++ ':' :: decimal destPort.toNat
  let request := "CONNECT ".toList ++ dest ++ " HTTP/1.1\r\nHost: ".toList ++ dest ++
    "\r\nProxy-Connection: Keep-Alive\r\n".toList
  let authorization :=
    match username, password with
    | some user, some pass =>
        "Proxy-Authorization: Basic ".toList ++
          base64Encode (asBytes (user ++ ':' :: pass)) ++ "\r\n".toList
    | _, _ => []
  request ++ authorization ++ "\r\n".toList

/-- The three bytes behind the version, read as a number; 0 when they are not
one. -/
def statusCode (response : Str) : UInt16 :=
  ((getRange response 9 12).bind (fun s => parseU16 (trim s))).getD 0

/-- The checks on the bytes of the read. -/
def checkResponse (buf : Octets) : Session ConnectError Unit :=
  if buf.length < 12 then
    fail (.bail ("http connect: response too short (".toList ++ decimal buf.length ++
      " bytes)".toList))
  else if "HTTP/1.".toList.isPrefixOf (fromUtf8Lossy buf) = false then
    fail (.bail "http connect: invalid response".toList)
  else if statusCode (fromUtf8Lossy buf) ≠ 200 then
    fail (.bail ("http connect: failed with status ".toList ++
      decimal (statusCode (fromUtf8Lossy buf)).toNat))
  else pure ()

def httpConnect (base64Encode : Octets -> Str) (destIp : UInt32) (destPort : UInt16)
    (username password : Option Str) : Session ConnectError Unit := do
  writeAll (asBytes (connectRequest base64Encode destIp destPort username password))
    (.io "http connect: failed to send request".toList)
  let buf ← read 1024 (.io "http connect: failed to read response".toList)
  checkResponse buf

/-- The same checks as a property of the bytes. -/
def acceptsResponse (buf : Octets) : Bool :=
  12 ≤ buf.length && "HTTP/1.".toList.isPrefixOf (fromUtf8Lossy buf) &&
    statusCode (fromUtf8Lossy buf) == 200

/-! ## The accepted responses -/

/-- Three digits are needed for 200, and they are 2, 0 and 0. -/
theorem eq_of_ofDigitChars {digits : Str} (all : digits.all Char.isDigit = true)
    (short : len digits ≤ 3) (value : Nat.ofDigitChars 10 digits 0 = 200) :
    digits = "200".toList := by
  have bounds : forall c, c ∈ digits -> 48 ≤ c.toNat ∧ c.toNat ≤ 57 :=
    fun c member => digit_bounds (List.all_eq_true.mp all c member)
  have size : forall c, c ∈ digits -> c.utf8Size = 1 := by
    intro c member
    have bound := bounds c member
    exact utf8Size_of_ascii (by omega)
  have known : forall {c : Char} {n : Nat}, c.toNat = n -> c = Char.ofNat n := by
    intro c n same
    rw [← same, Char.ofNat_toNat]
  match digits with
  | [] => cases value
  | [a] =>
      have first := bounds a List.mem_cons_self
      change 10 * 0 + (a.toNat - 48) = 200 at value
      omega
  | [a, b] =>
      have first := bounds a List.mem_cons_self
      have second := bounds b (List.mem_cons_of_mem _ List.mem_cons_self)
      change 10 * (10 * 0 + (a.toNat - 48)) + (b.toNat - 48) = 200 at value
      omega
  | [a, b, c] =>
      have first := bounds a List.mem_cons_self
      have second := bounds b (List.mem_cons_of_mem _ List.mem_cons_self)
      have third := bounds c (List.mem_cons_of_mem _ (List.mem_cons_of_mem _ List.mem_cons_self))
      change 10 * (10 * (10 * 0 + (a.toNat - 48)) + (b.toNat - 48)) + (c.toNat - 48) = 200 at value
      have two : a = Char.ofNat 50 := known (by omega)
      have zero : b = Char.ofNat 48 := known (by omega)
      have last : c = Char.ofNat 48 := known (by omega)
      rw [two, zero, last]
      rfl
  | a :: b :: c :: d :: rest =>
      have one : forall e, e ∈ [a, b, c, d] -> e.utf8Size = 1 := by
        intro e member
        apply size
        exact List.mem_append_left rest member
      simp only [List.mem_cons, List.not_mem_nil, or_false, forall_eq_or_imp, forall_eq] at one
      simp only [len_cons, one] at short
      omega

/-- Only the three digits themselves are read as 200: a sign or a blank would
leave room for two digits. -/
theorem eq_of_parseU16_trim {s : Str} (three : len s = 3) (parsed : parseU16 (trim s) = some 200) :
    s = "200".toList := by
  have inside := trim_infix s
  have shorter : len (trim s) ≤ 3 := by
    rcases inside with ⟨left, right, whole⟩
    have size := congrArg len whole
    rw [len_append, len_append] at size
    omega
  rw [parseU16, parseUnsigned] at parsed
  by_cases numeral : unsignedDigits (trim s) ≠ [] ∧
      (unsignedDigits (trim s)).all Char.isDigit = true
  · simp only [if_pos numeral] at parsed
    have value : Nat.ofDigitChars 10 (unsignedDigits (trim s)) 0 = 200 := by
      split at parsed
      case isTrue small =>
        have same := congrArg UInt16.toNat (Option.some.inj parsed)
        rw [UInt16.toNat_ofNat', Nat.mod_eq_of_lt small] at same
        exact same
      case isFalse => cases parsed
    have suffix : unsignedDigits (trim s) <:+ trim s := by
      unfold unsignedDigits
      split
      case h_1 digits same => exact same ▸ List.suffix_cons '+' digits
      case h_2 => exact List.suffix_rfl
    have fits : len (unsignedDigits (trim s)) ≤ 3 := by
      rcases suffix with ⟨sign, whole⟩
      have size := congrArg len whole
      rw [len_append] at size
      omega
    have digits := eq_of_ofDigitChars numeral.2 fits value
    have size : len s ≤ len (unsignedDigits (trim s)) := by
      rw [digits, three]
      decide
    rw [← eq_of_infix_of_len (suffix.isInfix.trans inside) size]
    exact digits
  · simp only [if_neg numeral] at parsed
    cases parsed

theorem version_ascii {c : Char} (member : c ∈ "HTTP/1.".toList) : c.toNat < 128 := by
  have all : "HTTP/1.".toList.all (fun d => decide (d.toNat < 128)) = true := rfl
  exact of_decide_eq_true (List.all_eq_true.mp all c member)

theorem status_ascii {c : Char} (member : c ∈ "200".toList) : c.toNat < 128 := by
  have all : "200".toList.all (fun d => decide (d.toNat < 128)) = true := rfl
  exact of_decide_eq_true (List.all_eq_true.mp all c member)

/-- A code other than 0 is a number in the three bytes behind two bytes of
text. -/
theorem exists_of_statusCode_ne_zero {later : Str}
    (status : statusCode ("HTTP/1.".toList ++ later) ≠ 0) :
    Exists fun text => Exists fun code => Exists fun right =>
      later = text ++ (code ++ right) ∧ len text = 2 ∧ len code = 3 ∧
      parseU16 (trim code) = some (statusCode ("HTTP/1.".toList ++ later)) := by
  rw [statusCode] at status ⊢
  cases sliced : getRange ("HTTP/1.".toList ++ later) 9 12 with
  | none =>
      rw [sliced] at status
      exact absurd rfl status
  | some code =>
      rw [sliced, Option.bind_some] at status
      cases parsed : parseU16 (trim code) with
      | none =>
          rw [parsed] at status
          exact absurd rfl status
      | some value =>
          rcases (getRange_eq_some_iff _ 9 12 code).mp sliced with
            ⟨_, left, right, whole, leftSize, codeSize⟩
          rcases List.append_eq_append_iff.mp whole with longer | shorter
          · rcases longer with ⟨text, leftSame, laterSame⟩
            rw [leftSame, len_append] at leftSize
            change 7 + len text = 9 at leftSize
            refine ⟨text, code, right, laterSame, by omega, codeSize, ?_⟩
            rw [Option.bind_some, parsed, Option.getD_some]
          · rcases shorter with ⟨text, same, _⟩
            have size := congrArg len same
            rw [len_append, leftSize] at size
            change 7 = 9 + len text at size
            omega

theorem statusCode_of_parts {text code : Str} (textSize : len text = 2) (codeSize : len code = 3)
    (right : Str) :
    statusCode ("HTTP/1.".toList ++ (text ++ (code ++ right))) =
      (parseU16 (trim code)).getD 0 := by
  have sliced : getRange ("HTTP/1.".toList ++ (text ++ (code ++ right))) 9 12 = some code := by
    apply (getRange_eq_some_iff _ 9 12 _).mpr
    refine ⟨by omega, "HTTP/1.".toList ++ text, right, ?_, ?_, codeSize⟩
    · rw [List.append_assoc]
    · rw [len_append, textSize]
      rfl
  rw [statusCode, sliced, Option.bind_some]

/-- In a response of version 1, the code is 200 when these three digits follow
two bytes of text. -/
theorem statusCode_eq_200_iff (later : Str) :
    statusCode ("HTTP/1.".toList ++ later) = 200 <->
      Exists fun text => Exists fun right =>
        len text = 2 ∧ later = text ++ ("200".toList ++ right) := by
  constructor
  · intro status
    have nonzero : statusCode ("HTTP/1.".toList ++ later) ≠ 0 := by
      rw [status]
      decide
    rcases exists_of_statusCode_ne_zero nonzero with
      ⟨text, code, right, whole, textSize, codeSize, parsed⟩
    rw [status] at parsed
    rw [eq_of_parseU16_trim codeSize parsed] at whole
    exact ⟨text, right, textSize, whole⟩
  · rintro ⟨text, right, textSize, same⟩
    rw [same, statusCode_of_parts textSize rfl]
    rfl

/-- Two bytes that are decoded to text of two bytes, whatever follows. -/
def IsTextBlock (block : Octets) : Prop :=
  block.length = 2 ∧ Exists fun text => len text = 2 ∧
    forall other, fromUtf8Lossy (block ++ other) = text ++ fromUtf8Lossy other

/-- The beginning of a status line with the code 200: the version up to its
dot, two bytes of text, and the code. -/
def ReportsOk (bytes : Octets) : Prop :=
  Exists fun block => Exists fun rest => IsTextBlock block ∧
    bytes = asBytes "HTTP/1.".toList ++ (block ++ (asBytes "200".toList ++ rest))

theorem narrow_of_len {text : Str} (size : len text = 2) (c : Char) (member : c ∈ text) :
    c.utf8Size ≤ 2 :=
  size ▸ utf8Size_le_len member

/-- The accepted responses are those that report the code 200. -/
theorem acceptsResponse_iff (buf : Octets) : acceptsResponse buf = true <-> ReportsOk buf := by
  simp only [acceptsResponse, Bool.and_eq_true, decide_eq_true_eq, beq_iff_eq]
  constructor
  · rintro ⟨⟨_, version⟩, status⟩
    rcases List.isPrefixOf_iff_prefix.mp version with ⟨later, decoded⟩
    rcases fromUtf8Lossy_eq_append (fun _ => version_ascii) decoded.symm with
      ⟨afterVersion, bytes, laterSame⟩
    rw [← decoded] at status
    rcases (statusCode_eq_200_iff later).mp status with ⟨text, right, textSize, laterWhole⟩
    rcases fromUtf8Lossy_eq_append_narrow (narrow_of_len textSize) (laterSame.trans laterWhole) with
      ⟨block, afterBlock, blockSame, blockSize, codeSame, meaning⟩
    rcases fromUtf8Lossy_eq_append (fun _ => status_ascii) codeSame with ⟨rest, restSame, _⟩
    refine ⟨block, rest, ⟨blockSize.trans textSize, text, textSize, meaning⟩, ?_⟩
    rw [bytes, blockSame, restSame]
  · rintro ⟨block, rest, ⟨blockSize, text, textSize, meaning⟩, same⟩
    have decoded : fromUtf8Lossy buf =
        "HTTP/1.".toList ++ (text ++ ("200".toList ++ fromUtf8Lossy rest)) := by
      rw [same, fromUtf8Lossy_asBytes_append (fun _ => version_ascii), meaning,
        fromUtf8Lossy_asBytes_append (fun _ => status_ascii)]
    have long : 12 ≤ buf.length := by
      rw [same, List.length_append, List.length_append, List.length_append, blockSize]
      change 12 ≤ 7 + (2 + (3 + rest.length))
      omega
    rw [decoded]
    refine ⟨⟨long, List.isPrefixOf_iff_prefix.mpr (List.prefix_append _ _)⟩, ?_⟩
    exact (statusCode_eq_200_iff _).mpr ⟨text, fromUtf8Lossy rest, textSize, rfl⟩

/-- A number of three bytes has a digit, so no character of it takes three. -/
theorem narrow_of_parseU16 {code : Str} {value : UInt16} (three : len code = 3)
    (parsed : parseU16 (trim code) = some value) (c : Char) (member : c ∈ code) :
    c.utf8Size ≤ 2 := by
  rcases Option.map_eq_some_iff.mp parsed with ⟨number, read, _⟩
  have numeral := ((parseUnsigned_eq_some_iff _ _ _).mp read).1
  rcases List.exists_mem_of_ne_nil _ numeral.nonempty with ⟨digit, listed⟩
  have inside := trim_infix code
  have suffix : unsignedDigits (trim code) <:+: code := by
    apply List.IsInfix.trans _ inside
    unfold unsignedDigits
    split
    case h_1 digits same => exact same ▸ (List.suffix_cons '+' digits).isInfix
    case h_2 => exact List.infix_rfl
  have bounds := digit_bounds (numeral.digits digit listed)
  have one : digit.utf8Size = 1 := utf8Size_of_ascii (by omega)
  rcases List.append_of_mem member with ⟨left, right, same⟩
  have among : digit ∈ left ++ c :: right := same ▸ suffix.subset listed
  rw [same, len_append, len_cons] at three
  rcases List.mem_append.mp among with before | after
  · have size := utf8Size_le_len before
    omega
  · rcases List.mem_cons.mp after with here | behind
    · rw [← here]
      omega
    · have size := utf8Size_le_len behind
      omega

/-- A code other than 0 is told by the five bytes behind the version. -/
theorem exists_front_of_statusCode {bytes : Octets}
    (status : statusCode (fromUtf8Lossy (asBytes "HTTP/1.".toList ++ bytes)) ≠ 0) :
    Exists fun front => front <+: bytes ∧ front.length = 5 ∧
      forall other, statusCode (fromUtf8Lossy (asBytes "HTTP/1.".toList ++ (front ++ other))) =
        statusCode (fromUtf8Lossy (asBytes "HTTP/1.".toList ++ bytes)) := by
  have version := fun rest => fromUtf8Lossy_asBytes_append (fun _ => version_ascii) rest
  simp only [version] at status ⊢
  rcases exists_of_statusCode_ne_zero status with
    ⟨text, code, right, whole, textSize, codeSize, parsed⟩
  rcases fromUtf8Lossy_eq_append_narrow (narrow_of_len textSize) whole with
    ⟨block, behind, same, blockSize, later, blockMeaning⟩
  rcases fromUtf8Lossy_eq_append_narrow (narrow_of_parseU16 codeSize parsed) later with
    ⟨digits, rest, sameBehind, digitsSize, _, digitsMeaning⟩
  refine ⟨block ++ digits, ⟨rest, ?_⟩, ?_, ?_⟩
  · rw [same, sameBehind, List.append_assoc]
  · rw [List.length_append, blockSize, digitsSize, textSize, codeSize]
  · intro other
    rw [List.append_assoc, blockMeaning, digitsMeaning, statusCode_of_parts textSize codeSize,
      parsed, Option.getD_some]

theorem statusCode_longer {first second : Octets} (before : first <+: second)
    (enough : 5 ≤ first.length) :
    statusCode (fromUtf8Lossy (asBytes "HTTP/1.".toList ++ first)) =
      statusCode (fromUtf8Lossy (asBytes "HTTP/1.".toList ++ second)) := by
  by_cases silent : statusCode (fromUtf8Lossy (asBytes "HTTP/1.".toList ++ second)) = 0
  · by_contra differs
    rw [silent] at differs
    rcases exists_front_of_statusCode differs with ⟨front, inside, _, told⟩
    rcases inside.trans before with ⟨rest, same⟩
    have status := told rest
    rw [same, silent] at status
    exact differs status.symm
  · rcases exists_front_of_statusCode silent with ⟨front, inside, size, told⟩
    rcases List.prefix_of_prefix_length_le inside before (by omega) with ⟨rest, same⟩
    rw [← same]
    exact told rest

theorem isPrefixOf_version_iff (buf : Octets) :
    "HTTP/1.".toList.isPrefixOf (fromUtf8Lossy buf) = true <-> asBytes "HTTP/1.".toList <+: buf := by
  rw [List.isPrefixOf_iff_prefix]
  constructor
  · rintro ⟨later, decoded⟩
    rcases fromUtf8Lossy_eq_append (fun _ => version_ascii) decoded.symm with ⟨rest, same, _⟩
    exact ⟨rest, same.symm⟩
  · rintro ⟨rest, same⟩
    rw [← same, fromUtf8Lossy_asBytes_append (fun _ => version_ascii)]
    exact List.prefix_append _ _

/-- What follows the first twelve bytes changes neither the version nor the
code. -/
theorem version_and_code_longer {buf whole : Octets} (before : buf <+: whole)
    (long : 12 ≤ buf.length) :
    "HTTP/1.".toList.isPrefixOf (fromUtf8Lossy buf) =
        "HTTP/1.".toList.isPrefixOf (fromUtf8Lossy whole) ∧
      ("HTTP/1.".toList.isPrefixOf (fromUtf8Lossy buf) = true ->
        statusCode (fromUtf8Lossy buf) = statusCode (fromUtf8Lossy whole)) := by
  have size : (asBytes "HTTP/1.".toList).length = 7 := rfl
  constructor
  · rw [Bool.eq_iff_iff, isPrefixOf_version_iff, isPrefixOf_version_iff]
    constructor
    · exact fun version => version.trans before
    · exact fun version => List.prefix_of_prefix_length_le version before (by omega)
  · intro version
    rcases (isPrefixOf_version_iff buf).mp version with ⟨first, same⟩
    rcases before with ⟨behind, wholeSame⟩
    rw [← same, List.length_append] at long
    rw [← wholeSame, ← same, List.append_assoc]
    exact statusCode_longer (List.prefix_append first behind) (by omega)

/-- Between a response and a longer one, only the number of bytes matters. -/
theorem acceptsResponse_longer {buf whole : Octets} (before : buf <+: whole) :
    acceptsResponse buf = true <-> 12 ≤ buf.length ∧ acceptsResponse whole = true := by
  have longer := before.length_le
  simp only [acceptsResponse, Bool.and_eq_true, decide_eq_true_eq, beq_iff_eq]
  constructor
  · rintro ⟨⟨long, version⟩, status⟩
    have same := version_and_code_longer before long
    exact ⟨long, ⟨by omega, same.1 ▸ version⟩, same.2 version ▸ status⟩
  · rintro ⟨long, ⟨_, version⟩, status⟩
    have same := version_and_code_longer before long
    rw [← same.1] at version
    exact ⟨⟨long, version⟩, (same.2 version).symm ▸ status⟩

/-- The buffer is long enough for the bytes that decide. -/
theorem acceptsResponse_buffer (bytes : Octets) :
    acceptsResponse (bytes.take 1024) = true <-> ReportsOk bytes := by
  rw [acceptsResponse_longer (List.take_prefix 1024 bytes), acceptsResponse_iff]
  constructor
  · intro accepted
    exact accepted.2
  · intro reports
    have accepted := (acceptsResponse_iff bytes).mpr reports
    have long := ((acceptsResponse_longer List.prefix_rfl).mp accepted).1
    refine ⟨?_, reports⟩
    rw [List.length_take]
    omega

/-! ## The outcome of a request -/

/-- What the checks say, whatever the stream. -/
def checked (buf : Octets) : Except ConnectError Unit :=
  (checkResponse buf (TcpStream.opened [] .closed (fun _ => true))).1

/-- The checks pass exactly the accepted bytes. -/
theorem checkResponse_eq_ok_iff (buf : Octets) (stream : TcpStream) :
    (checkResponse buf stream).1 = .ok () <-> acceptsResponse buf = true := by
  rw [checkResponse, ite_fail_eq_ok_iff, ite_fail_eq_ok_iff, ite_fail_eq_ok_iff, acceptsResponse,
    Bool.and_eq_true, Bool.and_eq_true, decide_eq_true_eq, beq_iff_eq, Nat.not_lt,
    Bool.not_eq_false, Ne, not_not, and_assoc]
  apply and_congr_right
  intro _
  apply and_congr_right
  intro _
  exact and_iff_left rfl

theorem checkResponse_fst (buf : Octets) (stream : TcpStream) :
    (checkResponse buf stream).1 = checked buf := by
  unfold checked checkResponse
  split_ifs <;> rfl

theorem checked_of_short {buf : Octets} (short : buf.length < 12) :
    checked buf = .error (.bail ("http connect: response too short (".toList ++
      decimal buf.length ++ " bytes)".toList)) := by
  rw [checked, checkResponse, if_pos short]
  rfl

/-- The text about a short response is no other text, and names the number of
its bytes. -/
theorem checked_eq_short_iff {buf : Octets} (count : Nat) :
    checked buf = .error (.bail ("http connect: response too short (".toList ++
      decimal count ++ " bytes)".toList)) <-> buf.length < 12 ∧ buf.length = count := by
  have letter : ("http connect: response too short (".toList ++
      decimal count ++ " bytes)".toList)[14]? = some 'r' := rfl
  constructor
  · intro same
    by_cases short : buf.length < 12
    · rw [checked_of_short short, Except.error.injEq, ConnectError.bail.injEq,
        List.append_cancel_right_eq, List.append_cancel_left_eq] at same
      exact ⟨short, decimal_injective same⟩
    · exfalso
      rw [checked, checkResponse, if_neg short] at same
      split_ifs at same
      · have texts := ConnectError.bail.inj (Except.error.inj same)
        rw [← texts] at letter
        cases letter
      · have texts := ConnectError.bail.inj (Except.error.inj same)
        rw [← texts] at letter
        cases letter
  · rintro ⟨short, rfl⟩
    exact checked_of_short short

/-- Bytes and a beginning of them are judged alike, down to the text of an
error, when the beginning has twelve bytes or nothing is missing. -/
theorem checked_eq_iff {buf whole : Octets} (before : buf <+: whole) :
    checked buf = checked whole <-> 12 ≤ buf.length ∨ buf = whole := by
  have longer := before.length_le
  constructor
  · intro same
    by_cases long : 12 ≤ buf.length
    · exact Or.inl long
    · rw [checked_of_short (by omega)] at same
      have judged := (checked_eq_short_iff buf.length).mp same.symm
      exact Or.inr (before.eq_of_length judged.2.symm)
  · rintro (long | same)
    · have alike := version_and_code_longer before long
      have longBuf : Not (buf.length < 12) := by omega
      have longWhole : Not (whole.length < 12) := by omega
      rw [checked, checked, checkResponse, checkResponse, if_neg longBuf, if_neg longWhole,
        ← alike.1]
      cases version : "HTTP/1.".toList.isPrefixOf (fromUtf8Lossy buf) with
      | false => rfl
      | true => rw [alike.2 version]
    · rw [same]

theorem still_checkResponse (buf : Octets) : Still (checkResponse buf) :=
  still_ite (still_fail _) (still_ite (still_fail _) (still_ite (still_fail _) (still_pure _)))

theorem conserves_httpConnect (base64Encode : Octets -> Str) (destIp : UInt32) (destPort : UInt16)
    (username password : Option Str) :
    Conserves (httpConnect base64Encode destIp destPort username password) := by
  apply conserves_bind (conserves_writeAll _ _)
  intro _
  apply conserves_bind (conserves_read _ _)
  intro buf
  exact conserves_of_still (still_checkResponse buf)

/-- The bytes up to and including the first CR LF CR LF, and those behind. -/
def splitHeader : Octets -> Option (Octets × Octets)
  | [] => none
  | b :: rest =>
      if [13, 10, 13, 10].isPrefixOf (b :: rest) then
        some ([13, 10, 13, 10], (b :: rest).drop 4)
      else (splitHeader rest).map (fun parts => (b :: parts.1, parts.2))

/-- A header ends with its blank line, and the rest follows it. -/
theorem splitHeader_eq_some {bytes header tunnel : Octets}
    (found : splitHeader bytes = some (header, tunnel)) :
    bytes = header ++ tunnel ∧ Exists fun front => header = front ++ [13, 10, 13, 10] := by
  induction bytes generalizing header with
  | nil => cases found
  | cons b rest ih =>
      rw [splitHeader] at found
      split at found
      case isTrue starts =>
        cases found
        rcases List.isPrefixOf_iff_prefix.mp starts with ⟨later, whole⟩
        refine ⟨?_, [], rfl⟩
        rw [← whole]
        rfl
      case isFalse =>
        rcases Option.map_eq_some_iff.mp found with ⟨parts, inner, same⟩
        cases same
        rcases ih inner with ⟨whole, front, ends⟩
        exact ⟨congrArg (List.cons b) whole, b :: front, congrArg (List.cons b) ends⟩

/-- The header of an accepted response is not over before its status code. -/
theorem splitHeader_length {bytes header tunnel : Octets} (reports : ReportsOk bytes)
    (found : splitHeader bytes = some (header, tunnel)) : 12 ≤ header.length := by
  rcases reports with ⟨block, rest, isBlock, same⟩
  rcases List.length_eq_two.mp isBlock.1 with ⟨b0, b1, two⟩
  have shape : bytes = 72 :: 84 :: 84 :: 80 :: 47 :: 49 :: 46 :: b0 :: b1 :: 50 :: 48 :: 48 :: rest := by
    rw [same, two]
    rfl
  rcases splitHeader_eq_some found with ⟨whole, front, ends⟩
  have blank : bytes = front ++ (13 :: 10 :: 13 :: 10 :: tunnel) := by
    rw [whole, ends, List.append_assoc]
    rfl
  have first : bytes[front.length]? = some 13 := by
    rw [blank, List.getElem?_append_right (Nat.le_refl _), Nat.sub_self]
    rfl
  have third : bytes[front.length + 2]? = some 13 := by
    rw [blank, List.getElem?_append_right (Nat.le_add_right _ _), Nat.add_sub_cancel_left]
    rfl
  rw [ends, List.length_append]
  by_contra early
  have position : front.length < 8 := by
    change Not (12 ≤ front.length + 4) at early
    omega
  rw [shape] at first third
  generalize front.length = k at first third position
  interval_cases k
  all_goals first | (cases first; done) | cases third

section Outcome

variable (base64Encode : Octets -> Str) (destIp : UInt32) (destPort : UInt16)
  (username password : Option Str) (ending : Ending) (writable : Nat -> Bool)

/-- The outcome is decided by the first read alone, and a success has consumed
exactly that read. -/
theorem httpConnect_ensures (cut : List Octets) :
    Ensures (httpConnect base64Encode destIp destPort username password)
      (TcpStream.opened cut ending writable) (fun result later =>
        (result = .ok () <->
          writable 0 = true ∧ acceptsResponse (TcpStream.firstRead 1024 cut) = true) ∧
        (result = .ok () ->
          TcpStream.receivedBytes later.trace = TcpStream.firstRead 1024 cut)) := by
  have refused : forall {error : ConnectError} {goal : Prop}, Except.error error = .ok () -> goal :=
    fun impossible => by cases impossible
  apply ensures_bind
  apply ensures_writeAll
  · intro sentRequest
    change writable 0 = true at sentRequest
    apply ensures_bind
    apply ensures_read
    · intro incoming _
      apply ensures_still (still_checkResponse _)
      refine ⟨?_, ?_⟩
      · rw [checkResponse_eq_ok_iff, sentRequest]
        exact (and_iff_right rfl).symm
      · intro _
        exact List.append_nil _
    · intro nothing
      change TcpStream.firstRead 1024 cut = [] at nothing
      refine ⟨iff_of_false refused ?_, refused⟩
      rw [nothing]
      exact fun conditions => Bool.false_ne_true conditions.2
  · intro broken
    change writable 0 = false at broken
    refine ⟨iff_of_false refused ?_, refused⟩
    intro conditions
    rw [broken] at conditions
    cases conditions.1

/-- The result as a function of the first read. -/
theorem httpConnect_fst (cut : List Octets) :
    (httpConnect base64Encode destIp destPort username password
        (TcpStream.opened cut ending writable)).1 =
      if writable 0 = true then
        if TcpStream.firstRead 1024 cut = [] ∧ ending = .reset then
          .error (.io "http connect: failed to read response".toList)
        else checked (TcpStream.firstRead 1024 cut)
      else .error (.io "http connect: failed to send request".toList) := by
  rw [httpConnect, bind_run]
  dsimp only [writeAll]
  have first : (TcpStream.opened cut ending writable).writable
      (TcpStream.opened cut ending writable).writes = writable 0 := rfl
  rw [first]
  cases writable 0 with
  | false => rfl
  | true =>
      rw [if_pos rfl, if_pos rfl]
      dsimp only
      rw [bind_run]
      unfold Session.read TcpStream.firstRead
      have untouched : forall message,
          ((TcpStream.opened cut ending writable).sent message).incoming = cut := fun _ => rfl
      rw [untouched]
      cases found : TcpStream.nextSegment cut with
      | none =>
          cases ending with
          | closed => exact checkResponse_fst _ _
          | reset => rfl
      | some entry =>
          have nonempty : Not (entry.1.take 1024 = []) := by
            rw [List.take_eq_nil_iff]
            rintro (zero | empty)
            · omega
            · exact TcpStream.ne_nil_of_nextSegment found empty
          rw [if_neg (fun both => nonempty both.1)]
          exact checkResponse_fst _ _

theorem httpConnect_ok_iff (cut : List Octets) :
    (httpConnect base64Encode destIp destPort username password
        (TcpStream.opened cut ending writable)).1 = .ok () <->
      writable 0 = true ∧ acceptsResponse (TcpStream.firstRead 1024 cut) = true :=
  (httpConnect_ensures base64Encode destIp destPort username password ending writable cut).1

theorem httpConnect_uncut_ok_iff (bytes : Octets) :
    (httpConnect base64Encode destIp destPort username password
        (TcpStream.opened [bytes] ending writable)).1 = .ok () <->
      writable 0 = true ∧ ReportsOk bytes := by
  rw [httpConnect_ok_iff, TcpStream.firstRead_uncut, acceptsResponse_buffer]

/-- A success leaves what the first read has left. -/
theorem httpConnect_pending {cut : List Octets}
    (succeeded : (httpConnect base64Encode destIp destPort username password
      (TcpStream.opened cut ending writable)).1 = .ok ()) :
    TcpStream.firstRead 1024 cut ++ (httpConnect base64Encode destIp destPort username password
      (TcpStream.opened cut ending writable)).2.pending = cut.flatten := by
  have conserved := conserves_httpConnect base64Encode destIp destPort username password
    (TcpStream.opened cut ending writable)
  have received := (httpConnect_ensures base64Encode destIp destPort username password ending
    writable cut).2 succeeded
  rw [TcpStream.allBytes, received] at conserved
  exact conserved

/-- A success leaves exactly what is behind the header. -/
def HandsOver (cut : List Octets) : Prop :=
  (httpConnect base64Encode destIp destPort username password
      (TcpStream.opened cut ending writable)).1 = .ok () ->
    Exists fun header => splitHeader cut.flatten =
      some (header, (httpConnect base64Encode destIp destPort username password
        (TcpStream.opened cut ending writable)).2.pending)

/-- What the cut should not change: the result for the cut stream, down to the
text of an error, is that for the uncut one, and a success leaves exactly what
is behind the header. -/
def Transparent (cut : List Octets) : Prop :=
  (httpConnect base64Encode destIp destPort username password
      (TcpStream.opened cut ending writable)).1 =
    (httpConnect base64Encode destIp destPort username password
      (TcpStream.opened [cut.flatten] ending writable)).1 ∧
  HandsOver base64Encode destIp destPort username password ending writable cut

/-- The same with nothing said about errors: a success shows for the cut stream
exactly when it shows for the uncut one. -/
def SuccessTransparent (cut : List Octets) : Prop :=
  ((httpConnect base64Encode destIp destPort username password
        (TcpStream.opened cut ending writable)).1 = .ok () <->
      (httpConnect base64Encode destIp destPort username password
        (TcpStream.opened [cut.flatten] ending writable)).1 = .ok ()) ∧
  HandsOver base64Encode destIp destPort username password ending writable cut

/-- One cut of a stream: a success cannot go wrong when the stream does not
report one, and otherwise the first read has to be the header. -/
theorem successTransparent_iff (cut : List Octets) :
    SuccessTransparent base64Encode destIp destPort username password ending writable cut <->
      writable 0 = false ∨ Not (ReportsOk cut.flatten) ∨
        Exists fun tunnel =>
          splitHeader cut.flatten = some (TcpStream.firstRead 1024 cut, tunnel) := by
  have before := TcpStream.firstRead_prefix 1024 cut
  have accepted := acceptsResponse_longer before
  rw [acceptsResponse_buffer] at accepted
  have pending := @httpConnect_pending base64Encode destIp destPort username password ending
    writable cut
  unfold SuccessTransparent HandsOver
  rw [httpConnect_uncut_ok_iff]
  rw [httpConnect_ok_iff] at pending ⊢
  constructor
  · intro transparent
    by_cases sends : writable 0 = true
    · by_cases reports : ReportsOk cut.flatten
      · have succeeded := transparent.1.mpr ⟨sends, reports⟩
        rcases transparent.2 succeeded with ⟨header, split⟩
        have whole := (pending succeeded).trans (splitHeader_eq_some split).1
        rw [← List.append_cancel_right whole] at split
        exact Or.inr (Or.inr ⟨_, split⟩)
      · exact Or.inr (Or.inl reports)
    · exact Or.inl (Bool.eq_false_of_not_eq_true sends)
  · intro conditions
    have header : writable 0 = true -> ReportsOk cut.flatten ->
        Exists fun tunnel =>
          splitHeader cut.flatten = some (TcpStream.firstRead 1024 cut, tunnel) := by
      intro sends reports
      rcases conditions with broken | rejected | found
      · exact absurd broken (Bool.not_eq_false _ ▸ sends)
      · exact absurd reports rejected
      · exact found
    refine ⟨and_congr_right fun sends => ?_, ?_⟩
    · constructor
      · intro accepts
        exact (accepted.mp accepts).2
      · intro reports
        rcases header sends reports with ⟨tunnel, split⟩
        exact accepted.mpr ⟨splitHeader_length reports split, reports⟩
    · intro succeeded
      rcases header succeeded.1 (accepted.mp succeeded.2).2 with ⟨tunnel, split⟩
      have whole := (pending succeeded).trans (splitHeader_eq_some split).1
      exact ⟨_, (List.append_cancel_left whole) ▸ split⟩

/-- The results agree when the first read is long enough to be judged, or has
everything. -/
theorem httpConnect_fst_eq_uncut_iff (cut : List Octets) :
    (httpConnect base64Encode destIp destPort username password
          (TcpStream.opened cut ending writable)).1 =
        (httpConnect base64Encode destIp destPort username password
          (TcpStream.opened [cut.flatten] ending writable)).1 <->
      writable 0 = false ∨ 12 ≤ (TcpStream.firstRead 1024 cut).length ∨
        TcpStream.firstRead 1024 cut = cut.flatten := by
  have before := TcpStream.firstRead_prefix 1024 cut
  rw [httpConnect_fst, httpConnect_fst, TcpStream.firstRead_uncut]
  cases writable 0 with
  | false => exact iff_of_true rfl (Or.inl rfl)
  | true =>
      rw [if_pos rfl, if_pos rfl, or_iff_right (Ne.symm Bool.false_ne_true)]
      by_cases nothing : TcpStream.firstRead 1024 cut = []
      · have ended := TcpStream.flatten_of_firstRead_eq_nil (by omega) nothing
        rw [nothing, ended]
        exact iff_of_true rfl (Or.inr rfl)
      · have more : Not (cut.flatten.take 1024 = []) := by
          intro empty
          rw [empty] at before
          exact nothing (List.prefix_nil.mp before)
        rw [if_neg (fun both => nothing both.1), if_neg (fun both => more both.1),
          checked_eq_iff before]
        apply or_congr_right'
        intro short
        constructor
        · intro same
          have size := congrArg List.length same
          rw [List.length_take] at size
          rw [same, List.take_of_length_le (by omega)]
        · intro same
          have size := congrArg List.length same
          rw [← same, List.take_of_length_le (by omega)]

/-- One cut of a stream: the first read has to be the header of a success, and
otherwise to be long enough to be judged, or to have everything. -/
theorem transparent_iff (cut : List Octets) :
    Transparent base64Encode destIp destPort username password ending writable cut <->
      writable 0 = false ∨
        (ReportsOk cut.flatten ∧ Exists fun tunnel =>
          splitHeader cut.flatten = some (TcpStream.firstRead 1024 cut, tunnel)) ∨
        (Not (ReportsOk cut.flatten) ∧ (12 ≤ (TcpStream.firstRead 1024 cut).length ∨
          TcpStream.firstRead 1024 cut = cut.flatten)) := by
  have results := httpConnect_fst_eq_uncut_iff base64Encode destIp destPort username password
    ending writable cut
  have successes := successTransparent_iff base64Encode destIp destPort username password
    ending writable cut
  have parts : Transparent base64Encode destIp destPort username password ending writable cut <->
      (httpConnect base64Encode destIp destPort username password
          (TcpStream.opened cut ending writable)).1 =
        (httpConnect base64Encode destIp destPort username password
          (TcpStream.opened [cut.flatten] ending writable)).1 ∧
      SuccessTransparent base64Encode destIp destPort username password ending writable cut := by
    constructor
    · intro transparent
      exact ⟨transparent.1, by rw [transparent.1], transparent.2⟩
    · intro both
      exact ⟨both.1, both.2.2⟩
  rw [parts, results, successes]
  by_cases sends : writable 0 = false
  · exact iff_of_true ⟨Or.inl sends, Or.inl sends⟩ (Or.inl sends)
  · rw [or_iff_right sends, or_iff_right sends, or_iff_right sends]
    by_cases reports : ReportsOk cut.flatten
    · simp only [reports, not_true_eq_false, false_or, true_and, false_and, or_false,
        and_iff_right_iff_imp]
      rintro ⟨tunnel, split⟩
      exact Or.inl (splitHeader_length reports split)
    · simp only [reports, not_false_eq_true, true_or, and_true, false_and, true_and, false_or]

/-- Whether every cut of a stream leaves the success as it is depends on the
stream alone: it must not report one.  Cut into single bytes, a stream that does
is refused. -/
theorem httpConnect_successTransparent_iff (bytes : Octets) :
    (forall cut, cut.flatten = bytes ->
        SuccessTransparent base64Encode destIp destPort username password ending writable cut) <->
      writable 0 = false ∨ Not (ReportsOk bytes) := by
  constructor
  · intro transparent
    have cut : (bytes.map (fun b => [b])).flatten = bytes := by
      rw [← List.flatMap_def, List.flatMap_singleton']
    have single := (successTransparent_iff base64Encode destIp destPort username password ending
      writable _).mp (transparent _ cut)
    rw [cut] at single
    rcases single with broken | rejected | header
    · exact Or.inl broken
    · exact Or.inr rejected
    · rcases header with ⟨tunnel, split⟩
      apply Or.inr
      intro reports
      have long := splitHeader_length reports split
      have short := TcpStream.firstRead_singletons 1024 bytes
      omega
  · intro conditions cut same
    rw [successTransparent_iff, same]
    rcases conditions with broken | rejected
    · exact Or.inl broken
    · exact Or.inr (Or.inl rejected)

/-- Whether every cut of a stream is harmless depends on the stream alone: it
must be too short to be cut.  For a given cut, the first read decides. -/
theorem httpConnect_transparent_iff (bytes : Octets) :
    ((forall cut, cut.flatten = bytes ->
        Transparent base64Encode destIp destPort username password ending writable cut) <->
      writable 0 = false ∨ bytes.length ≤ 1) ∧
    forall cut, cut.flatten = bytes ->
      (Transparent base64Encode destIp destPort username password ending writable cut <->
        writable 0 = false ∨
          (ReportsOk bytes ∧ Exists fun tunnel =>
            splitHeader bytes = some (TcpStream.firstRead 1024 cut, tunnel)) ∨
          (Not (ReportsOk bytes) ∧ (12 ≤ (TcpStream.firstRead 1024 cut).length ∨
            TcpStream.firstRead 1024 cut = bytes))) := by
  refine ⟨⟨?_, ?_⟩, ?_⟩
  · intro transparent
    have cut : (bytes.map (fun b => [b])).flatten = bytes := by
      rw [← List.flatMap_def, List.flatMap_singleton']
    have short := TcpStream.firstRead_singletons 1024 bytes
    have single := (httpConnect_fst_eq_uncut_iff base64Encode destIp destPort username password
      ending writable _).mp (transparent _ cut).1
    rw [cut] at single
    rcases single with broken | long | everything
    · exact Or.inl broken
    · omega
    · rw [everything] at short
      exact Or.inr short
  · intro conditions cut same
    rw [transparent_iff, same]
    rcases conditions with broken | short
    · exact Or.inl broken
    · right
      right
      constructor
      · intro reports
        have accepted := (acceptsResponse_iff bytes).mpr reports
        have long := ((acceptsResponse_longer List.prefix_rfl).mp accepted).1
        omega
      · right
        have before := TcpStream.firstRead_prefix 1024 cut
        rw [same, List.take_of_length_le (by omega)] at before
        apply before.eq_of_length_le
        by_cases nothing : TcpStream.firstRead 1024 cut = []
        · have ended := TcpStream.flatten_of_firstRead_eq_nil (by omega) nothing
          rw [same] at ended
          rw [ended]
          exact Nat.zero_le _
        · have some := List.length_pos_iff.mpr nothing
          omega
  · intro cut same
    rw [transparent_iff, same]

end Outcome

/-- `HTTP/1.1 200`, a blank line, and one byte of the tunnel. -/
def earlyByte : Octets :=
  [72, 84, 84, 80, 47, 49, 46, 49, 32, 50, 48, 48, 13, 10, 13, 10, 22]

theorem earlyByte_reportsOk : ReportsOk earlyByte := by
  refine ⟨[49, 32], [13, 10, 13, 10, 22], ⟨rfl, ['1', ' '], rfl, ?_⟩, rfl⟩
  intro other
  have digit := fromUtf8Lossy_ascii (by decide : (49 : UInt8) < 0x80) (32 :: other)
  have blank := fromUtf8Lossy_ascii (by decide : (32 : UInt8) < 0x80) other
  rw [blank] at digit
  exact digit

/-- A first byte of the destination that arrives together with the header is
swallowed. -/
theorem httpConnect_swallows_earlyByte :
    Not (forall (base64Encode : Octets -> Str) (destIp : UInt32) (destPort : UInt16)
      (username password : Option Str) (ending : Ending) (writable : Nat -> Bool)
      (bytes : Octets) (cut : List Octets), cut.flatten = bytes ->
        Transparent base64Encode destIp destPort username password ending writable cut) := by
  intro transparent
  have one := transparent (fun _ => []) 0x04030201 443 none none .closed (fun _ => true) _
    [earlyByte] rfl
  rcases (transparent_iff _ _ _ _ _ _ _ _).mp one with broken | found | rejected
  · cases broken
  · rcases found with ⟨_, tunnel, split⟩
    have size := congrArg (fun parts => parts.map (fun pair => pair.1.length)) split
    cases size
  · exact rejected.1 earlyByte_reportsOk

end ProxyBridge
