import ProxyBridge.Core.HttpConnect

namespace ProxyBridge

open Foundation Text Utf8 Session

/-!
# The status line of a response

A status line with the code 200 has a digit and a space in front of the code,
and ends or goes on with a space or a carriage return behind it.  The client
looks at fixed offsets: any two bytes of text may stand in front of the code, and
anything behind it.  It judges a response rightly exactly when the response has
no text there that is not a status line.
-/

/-- Behind the code the line ends or goes on with a space or a carriage
return. -/
def Terminated (rest : Octets) : Prop :=
  rest = [] ∨ Exists fun later => rest = 0x20 :: later ∨ rest = 0x0D :: later

/-- The response starts with a status line of version 1 and the code 200. -/
def HasStatusLine (bytes : Octets) : Prop :=
  Exists fun digit : UInt8 => Exists fun rest => (0x30 ≤ digit ∧ digit ≤ 0x39) ∧ Terminated rest ∧
    bytes = asBytes "HTTP/1.".toList ++ ([digit, 0x20] ++ (asBytes "200".toList ++ rest))

/-- Two ASCII characters, or one character of two bytes. -/
def IsTextPair (b0 b1 : UInt8) : Prop :=
  (b0 < 0x80 ∧ b1 < 0x80) ∨ IsPair b0 b1

theorem isTextBlock_iff (b0 b1 : UInt8) : IsTextBlock [b0, b1] <-> IsTextPair b0 b1 := by
  constructor
  · rintro ⟨_, text, two, meaning⟩
    have whole := meaning []
    rw [List.append_nil] at whole
    change fromUtf8Lossy [b0, b1] = text ++ [] at whole
    rw [List.append_nil] at whole
    rw [← whole] at two
    by_cases low : b0 < 0x80
    · rw [fromUtf8Lossy_ascii low, len_cons] at two
      have one : (Char.ofNat b0.toNat).utf8Size = 1 := by
        apply utf8Size_of_ascii
        have small : b0.toNat < 128 := UInt8.lt_iff_toNat_lt.mp low
        rw [toNat_ofNat_of_lt (by omega)]
        exact small
      by_cases second : b1 < 0x80
      · exact Or.inl ⟨low, second⟩
      · rcases fromUtf8Lossy_high second [] with ⟨_, _, impossible, _⟩ | ⟨d, more, first, size⟩
        · cases impossible
        · rw [first, len_cons] at two
          omega
    · rcases fromUtf8Lossy_high low [b1] with ⟨b, more, same, pair⟩ | ⟨d, more, first, size⟩
      · cases same
        exact Or.inr pair
      · rw [first, len_cons] at two
        omega
  · intro pair
    refine ⟨rfl, ?_⟩
    rcases pair with ⟨low, second⟩ | pair
    · refine ⟨[Char.ofNat b0.toNat, Char.ofNat b1.toNat], ?_, ?_⟩
      · have small : forall b : UInt8, b < 0x80 -> (Char.ofNat b.toNat).utf8Size = 1 := by
          intro b ascii
          apply utf8Size_of_ascii
          have bound : b.toNat < 128 := UInt8.lt_iff_toNat_lt.mp ascii
          rw [toNat_ofNat_of_lt (by omega)]
          exact bound
        rw [len_cons, len_cons, small b0 low, small b1 second]
        rfl
      · intro other
        change fromUtf8Lossy (b0 :: b1 :: other) = _
        rw [fromUtf8Lossy_ascii low, fromUtf8Lossy_ascii second]
        rfl
    · refine ⟨[decodeTwo b0 b1], ?_, fun other => fromUtf8Lossy_pair pair other⟩
      rw [len_cons, utf8Size_decodeTwo pair]
      rfl

/-- The response has text where the status line has its digit and its space. -/
theorem reportsOk_iff (bytes : Octets) :
    ReportsOk bytes <-> Exists fun b0 => Exists fun b1 => Exists fun rest => IsTextPair b0 b1 ∧
      bytes = asBytes "HTTP/1.".toList ++ ([b0, b1] ++ (asBytes "200".toList ++ rest)) := by
  constructor
  · rintro ⟨block, rest, isBlock, same⟩
    rcases List.length_eq_two.mp isBlock.1 with ⟨b0, b1, two⟩
    rw [two] at isBlock same
    exact ⟨b0, b1, rest, (isTextBlock_iff b0 b1).mp isBlock, same⟩
  · rintro ⟨b0, b1, rest, pair, same⟩
    exact ⟨[b0, b1], rest, (isTextBlock_iff b0 b1).mpr pair, same⟩

theorem HasStatusLine.reportsOk {bytes : Octets} (line : HasStatusLine bytes) :
    ReportsOk bytes := by
  rcases line with ⟨digit, rest, ⟨_, high⟩, _, same⟩
  have low : digit < 0x80 := by
    have bound : digit.toNat ≤ 57 := UInt8.le_iff_toNat_le.mp high
    apply UInt8.lt_iff_toNat_lt.mpr
    change digit.toNat < 128
    omega
  exact (reportsOk_iff bytes).mpr ⟨digit, 0x20, rest, Or.inl ⟨low, by decide⟩, same⟩

/-- Text in front of the code 200 is the digit and the space of a status line
that ends as it should. -/
def CodeInPlace (bytes : Octets) : Prop :=
  forall (b0 b1 : UInt8) (rest : Octets), IsTextPair b0 b1 ->
    bytes = asBytes "HTTP/1.".toList ++ ([b0, b1] ++ (asBytes "200".toList ++ rest)) ->
      (0x30 ≤ b0 ∧ b0 ≤ 0x39) ∧ b1 = 0x20 ∧ Terminated rest

theorem hasStatusLine_iff_reportsOk (bytes : Octets) :
    (ReportsOk bytes <-> HasStatusLine bytes) <-> CodeInPlace bytes := by
  constructor
  · intro agree b0 b1 rest pair same
    rcases agree.mp ((reportsOk_iff bytes).mpr ⟨b0, b1, rest, pair, same⟩) with
      ⟨digit, other, range, terminated, line⟩
    have tails := List.append_cancel_left (same.symm.trans line)
    cases tails
    exact ⟨range, rfl, terminated⟩
  · intro inPlace
    refine ⟨?_, HasStatusLine.reportsOk⟩
    intro reports
    rcases (reportsOk_iff bytes).mp reports with ⟨b0, b1, rest, pair, same⟩
    rcases inPlace b0 b1 rest pair same with ⟨range, space, terminated⟩
    rw [space] at same
    exact ⟨b0, rest, range, terminated, same⟩

/-- For every response that arrives in one read, the outcome says whether it
starts with a status line exactly when text in front of the code is that of a
status line. -/
theorem httpConnect_judges_status_iff (base64Encode : Octets -> Str) (destIp : UInt32)
    (destPort : UInt16) (username password : Option Str) (ending : Ending)
    (writable : Nat -> Bool) (sends : writable 0 = true) (cut : List Octets) (bytes : Octets)
    (delivered : TcpStream.firstRead 1024 cut = bytes) :
    ((httpConnect base64Encode destIp destPort username password
        (TcpStream.opened cut ending writable)).1 = .ok () <-> HasStatusLine bytes) <->
      CodeInPlace bytes := by
  rw [httpConnect_ok_iff, delivered, acceptsResponse_iff, and_iff_right sends]
  exact hasStatusLine_iff_reportsOk bytes

theorem httpConnect_judges_status_iff_earlyByte :
    ((httpConnect (fun _ => []) 0x04030201 443 none none
        (TcpStream.opened [earlyByte] .closed (fun _ => true))).1 = .ok () <->
      HasStatusLine earlyByte) <-> CodeInPlace earlyByte :=
  httpConnect_judges_status_iff (fun _ => []) 0x04030201 443 none none .closed (fun _ => true) rfl
    [earlyByte] earlyByte rfl

/-- `HTTP/1.1 2000`, which is taken for the code 200. -/
theorem httpConnect_accepts_longer_code :
    Not (forall (base64Encode : Octets -> Str) (destIp : UInt32) (destPort : UInt16)
      (username password : Option Str) (ending : Ending) (writable : Nat -> Bool)
      (cut : List Octets) (bytes : Octets), writable 0 = true ->
        TcpStream.firstRead 1024 cut = bytes -> 12 ≤ bytes.length -> bytes.length ≤ 1024 ->
        ((httpConnect base64Encode destIp destPort username password
          (TcpStream.opened cut ending writable)).1 = .ok () <-> HasStatusLine bytes)) := by
  intro judges
  let bytes : Octets := [72, 84, 84, 80, 47, 49, 46, 49, 32, 50, 48, 48, 48]
  have reports : ReportsOk bytes :=
    (reportsOk_iff bytes).mpr ⟨49, 32, [48], Or.inl ⟨by decide, by decide⟩, rfl⟩
  have agree := judges (fun _ => []) 0x04030201 443 none none .closed (fun _ => true) [bytes] bytes
    rfl rfl (by decide) (by decide)
  rw [httpConnect_ok_iff, TcpStream.firstRead_uncut, acceptsResponse_buffer] at agree
  rcases agree.mp ⟨rfl, reports⟩ with ⟨digit, rest, _, terminated, same⟩
  have last := congrArg (List.drop 12) same
  change [48] = rest at last
  rw [← last] at terminated
  rcases terminated with empty | ⟨later, space | carriage⟩
  · cases empty
  · cases space
  · cases carriage

end ProxyBridge
