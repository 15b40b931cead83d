import ApkTools.Adb.Value
import ApkTools.Dependency

/-! The integer and blob scalars of `apk_adb.c`: `int_fromstring`, the `compare`s of the
string, version and int schemas, and the renderers that write into the caller's buffer.
`apk_blob_pull_uint`, `apk_blob_sort` and `apk_blob_push_hexdump` are modelled from §4.3
of the spec; `apk_version_compare_blob` and `apk_get_human_size` are taken as given. -/
namespace ApkTools

/-- `EINVAL`. -/
def einval : Nat := 22

/-- The value of a decimal digit. -/
def digitValue (c : Char) : Nat := c.toNat - '0'.toNat

/-- The loop of `apk_blob_pull_uint`, from the value `val` read so far. -/
def pullDigits (radix val : Nat) : Blob → Nat × Blob
  | [] => (val, [])
  | c :: cs =>
    if c.isDigit && decide (digitValue c < radix) then
      pullDigits radix ((val * radix + digitValue c) % 2 ^ 64) cs
    else (val, c :: cs)

/-- Modelled from the spec: `apk_blob_pull_uint(&b, radix)` (apk_blob.c is not among the
sources), as §4.3 reads decimal integers: the digits at the front of `b` are taken as a
number in an `unsigned long`, and `b` is left at the first byte that is not a digit. -/
def apkBlobPullUint (b : Blob) (radix : Nat) : Nat × Blob := pullDigits radix 0 b

/-- `int_fromstring(db, val)`, the `fromstring` of the int and hsize schemas. -/
def intFromstring (db : Adb) (val : Blob) : Handle × Adb :=
  let pulled := apkBlobPullUint val 10
  if pulled.2 ≠ [] then (.error einval, db) else db.adbWInt (pulled.1 % 2 ^ 32)

/-- The number a string of decimal digits stands for, 0 for the empty string. -/
def decimalValue (s : Blob) : Nat := Nat.ofDigits 10 (s.map digitValue).reverse

theorem digitValue_lt {c : Char} (h : c.isDigit = true) : digitValue c < 10 := by
  simp only [Char.isDigit, Bool.and_eq_true, decide_eq_true_eq] at h
  have le := UInt32.toNat_le_of_le (m := 57) (by decide) h.2
  have zero : '0'.toNat = 48 := rfl
  simp only [digitValue, Char.toNat] at le zero ⊢
  omega

theorem decimalValue_cons (c : Char) (s : Blob) :
    decimalValue (c :: s) = digitValue c * 10 ^ s.length + decimalValue s := by
  simp [decimalValue, Nat.ofDigits_append]
  ring

/-- On a string of decimal digits, `apk_blob_pull_uint` reads every byte, and its
`unsigned long` holds the value of the digits modulo `2 ^ 64`. -/
theorem pullDigits_digits (val : Nat) (s : Blob) (digits : ∀ c ∈ s, c.isDigit = true) :
    (pullDigits 10 val s).2 = [] ∧
      (pullDigits 10 val s).1 ≡ val * 10 ^ s.length + decimalValue s [MOD 2 ^ 64] := by
  induction s generalizing val with
  | nil => exact ⟨rfl, by simp [decimalValue, pullDigits]; rfl⟩
  | cons c cs ih =>
    have dc := digits c (List.mem_cons_self _ _)
    obtain ⟨rest, value⟩ :=
      ih ((val * 10 + digitValue c) % 2 ^ 64) fun x h => digits x (List.mem_cons_of_mem _ h)
    simp only [pullDigits, dc, digitValue_lt dc, decide_True, Bool.and_self, if_true]
    refine ⟨rest, ?_⟩
    calc (pullDigits 10 ((val * 10 + digitValue c) % 2 ^ 64) cs).1
        ≡ (val * 10 + digitValue c) % 2 ^ 64 * 10 ^ cs.length + decimalValue cs [MOD 2 ^ 64] :=
          value
      _ ≡ (val * 10 + digitValue c) * 10 ^ cs.length + decimalValue cs [MOD 2 ^ 64] :=
          ((Nat.mod_modEq _ _).mul_right _).add_right _
      _ = val * 10 ^ (c :: cs).length + decimalValue (c :: cs) := by
          rw [decimalValue_cons, List.length_cons]
          ring

/-- A byte that is not a decimal digit stops `apk_blob_pull_uint` before the end. -/
theorem pullDigits_stray (val : Nat) (s : Blob) (stray : ∃ c ∈ s, c.isDigit = false) :
    (pullDigits 10 val s).2 ≠ [] := by
  induction s generalizing val with
  | nil => obtain ⟨_, h, _⟩ := stray; cases h
  | cons c cs ih =>
    simp only [pullDigits]
    split
    · rename_i dc
      obtain ⟨x, hx, bad⟩ := stray
      rcases List.mem_cons.mp hx with rfl | hx
      · simp [bad] at dc
      · exact ih _ ⟨x, hx, bad⟩
    · simp

/-- `int_fromstring` fails exactly on a string with a byte that is not a decimal digit;
on any other, the empty string among them, it writes the value of the digits narrowed to
its `uint32_t`. -/
theorem int_fromstring_value (db : Adb) (s : Blob) :
    ((intFromstring db s).1.isError = true ↔ ∃ c ∈ s, c.isDigit = false) ∧
      ((∀ c ∈ s, c.isDigit = true) →
        intFromstring db s = db.adbWInt (decimalValue s % 2 ^ 32)) := by
  by_cases digits : ∀ c ∈ s, c.isDigit = true
  · obtain ⟨rest, value⟩ := pullDigits_digits 0 s digits
    have narrowed : (pullDigits 10 0 s).1 % 2 ^ 32 = decimalValue s % 2 ^ 32 := by
      simpa using value.of_dvd (by norm_num : 2 ^ 32 ∣ 2 ^ 64)
    have written : intFromstring db s = db.adbWInt (decimalValue s % 2 ^ 32) := by
      simp only [intFromstring, apkBlobPullUint, rest, ne_eq, not_true_eq_false, if_false,
        narrowed, Nat.mod_mod]
    exact ⟨by simpa [written, Adb.adbWInt_not_error] using digits, fun _ => written⟩
  · have stray : ∃ c ∈ s, c.isDigit = false := by simpa using digits
    have failed : intFromstring db s = (.error einval, db) := by
      simp [intFromstring, apkBlobPullUint, pullDigits_stray 0 s stray]
    exact ⟨by simp [failed, Handle.isError, stray], fun all => absurd all digits⟩

theorem int_fromstring_value_digits :
    intFromstring Adb.empty "42".toList = Adb.empty.adbWInt (decimalValue "42".toList % 2 ^ 32) :=
  (int_fromstring_value Adb.empty "42".toList).2 (by decide)

/-- The empty string reads as 0, and `2 ^ 32` wraps to 0, neither of them an ERROR. -/
theorem int_fromstring_empty_and_wrapped :
    (intFromstring Adb.empty []).1 = .int 0 ∧
      (intFromstring Adb.empty "4294967296".toList).1 = .int 0 := by
  decide

/-- Lexicographic byte order: -1, 0 or 1. -/
def byteOrder : Blob → Blob → Int
  | [], [] => 0
  | [], _ :: _ => -1
  | _ :: _, [] => 1
  | a :: as, b :: bs =>
    if a.toNat < b.toNat then -1 else if b.toNat < a.toNat then 1 else byteOrder as bs

/-- Modelled from the spec: `apk_blob_sort(a, b)` (apk_blob.c is not among the sources),
lexicographic byte order (§4.3); `APK_BLOB_NULL` has no bytes. -/
def apkBlobSort (a b : Option Blob) : Int := byteOrder (a.getD []) (b.getD [])

/-- `string_compare(db1, v1, db2, v2)`, the `compare` of the string and mstring schemas. -/
def stringCompare (db1 : Adb) (v1 : Handle) (db2 : Adb) (v2 : Handle) : Int :=
  apkBlobSort (db1.adbRBlob v1) (db2.adbRBlob v2)

/-- `version_compare(db1, v1, db2, v2)`, over `apk_version_compare_blob`, which returns
one of the comparison bits. -/
def versionCompare (apkVersionCompareBlob : Option Blob → Option Blob → Nat) (db1 : Adb)
    (v1 : Handle) (db2 : Adb) (v2 : Handle) : Int :=
  let r := apkVersionCompareBlob (db1.adbRBlob v1) (db2.adbRBlob v2)
  if r = apkVersionLess then -1 else if r = apkVersionGreater then 1 else 0

/-- `int_compare(db1, v1, db2, v2)`, the `compare` of the int and hsize schemas. Both
sides are read in `db1`. -/
def intCompare (db1 : Adb) (v1 : Handle) (_db2 : Adb) (v2 : Handle) : Int :=
  let r1 := db1.adbRInt v1
  let r2 := db1.adbRInt v2
  if r1 < r2 then -1 else if r1 > r2 then 1 else 0

/-- Two databases, each holding one integer out of line, at index 0 of its int pool. -/
def leftInts : Adb := ⟨[0x10000000], [], by decide⟩
def rightInts : Adb := ⟨[0x20000000], [], by decide⟩

/-- The handle `.int32 0` holds `2 ^ 28` in `leftInts` and `2 ^ 29` in `rightInts`, yet
`int_compare` finds the two equal: it reads the second one in `leftInts` too. -/
theorem int_compare_second_in_first_db :
    leftInts.adbRInt (.int32 0) = 2 ^ 28 ∧ rightInts.adbRInt (.int32 0) = 2 ^ 29 ∧
      intCompare leftInts (.int32 0) rightInts (.int32 0) = 0 := by
  decide

/-- `int_tostring` and `oct_tostring`: `snprintf(buf, bufsz, "%u")` or `"%o"` of the
integer, with the digits of `base`. -/
def numTostring (base : Nat) (db : Adb) (val : Handle) (bufsz : Nat) : Rendered :=
  snprintf bufsz (Nat.toDigits base (db.adbRInt val))

/-- `int_tostring(db, val, buf, bufsz)`. -/
def intTostring (db : Adb) (val : Handle) (bufsz : Nat) : Rendered := numTostring 10 db val bufsz

/-- `hsize_tostring(db, val, buf, bufsz)`, over `apk_get_human_size(0, size, &v)`, which
gives the scaled size `v` and its unit. -/
def hsizeTostring (apkGetHumanSize : Nat → Nat × Blob) (db : Adb) (val : Handle)
    (bufsz : Nat) : Rendered :=
  let human := apkGetHumanSize (db.adbRInt val)
  snprintf bufsz (Nat.toDigits 10 human.1 ++ ' ' :: human.2)

/-- Modelled from the spec: `apk_blob_push_hexdump(&to, b)` (apk_blob.c is not among the
sources): two hex digits for each byte of `b` when `to`, of `room` bytes, has space for
all of them, else `APK_BLOB_NULL` (§4.3 hexblob). -/
def apkBlobPushHexdump (room : Nat) (b : Blob) : Option Blob :=
  if 2 * b.length ≤ room then
    some (b.flatMap fun c => [Nat.digitChar (c.toNat / 16 % 16), Nat.digitChar (c.toNat % 16)])
  else none

theorem apkBlobPushHexdump_some {room : Nat} {b hex : Blob}
    (h : apkBlobPushHexdump room b = some hex) :
    hex.length = 2 * b.length ∧ 2 * b.length ≤ room := by
  unfold apkBlobPushHexdump at h
  split at h
  · cases h
    refine ⟨?_, ‹_›⟩
    clear ‹_›
    induction b with
    | nil => rfl
    | cons c cs ih => simp [List.flatMap_cons, ih]; omega
  · cases h

theorem apkBlobPushHexdump_eq_none {room : Nat} {b : Blob} :
    apkBlobPushHexdump room b = none ↔ room < 2 * b.length := by
  unfold apkBlobPushHexdump
  split <;> simp <;> omega

/-- `hexblob_tostring(db, val, buf, bufsz)`. -/
def hexblobTostring (db : Adb) (val : Handle) (bufsz : Nat) : Rendered :=
  match db.adbRBlob val with
  | none => .null
  | some b =>
    match apkBlobPushHexdump bufsz b with
    | some hex => .buf hex hex.length
    | none => snprintf bufsz ("(".toList ++ Nat.toDigits 10 b.length ++ " bytes)".toList)

/-- The blob a renderer returns is `APK_BLOB_NULL`, a blob of the database, or one that
lies within the caller's buffer of `bufsz` bytes. -/
def Rendered.Within (bufsz : Nat) : Rendered → Prop
  | .buf _ n => n ≤ bufsz
  | _ => True

instance (bufsz : Nat) : DecidablePred (Rendered.Within bufsz)
  | .buf _ n => inferInstanceAs (Decidable (n ≤ bufsz))
  | .null | .db _ => inferInstanceAs (Decidable True)

/-- `hexblob_tostring` returns a blob within the buffer exactly when the value is no blob,
or its hex digits fit, or the text `(N bytes)` does. -/
theorem hexblob_tostring_within (db : Adb) (val : Handle) (bufsz : Nat) :
    (hexblobTostring db val bufsz).Within bufsz ↔
      ∀ b, db.adbRBlob val = some b →
        2 * b.length ≤ bufsz ∨ (Nat.toDigits 10 b.length).length + 8 ≤ bufsz := by
  unfold hexblobTostring
  cases db.adbRBlob val with
  | none => simp [Rendered.Within]
  | some b =>
    cases push : apkBlobPushHexdump bufsz b with
    | some hex =>
      obtain ⟨length, fits⟩ := apkBlobPushHexdump_some push
      simp [Rendered.Within, push, length, fits]
    | none =>
      have short := apkBlobPushHexdump_eq_none.mp push
      simp [Rendered.Within, push, snprintf]
      omega

/-- A database whose blob pool holds the four bytes `de ad be ef`. -/
def deadbeef : Adb := ⟨[], [['\xde', '\xad', '\xbe', '\xef']], fun _ h => nomatch h⟩

/-- `int_tostring` of 100 into 2 bytes returns a blob of 3, past the buffer;
`hexblob_tostring` of `de ad be ef` renders `deadbeef` into 8 bytes, and into 3 bytes
returns a blob of 9, `(4 bytes)`, of which only `(4` was written. -/
theorem renderers_past_buffer :
    intTostring Adb.empty (.int 100) 2 = .buf ['1'] 3 ∧
      ¬ (intTostring Adb.empty (.int 100) 2).Within 2 ∧
      hexblobTostring deadbeef (.blob 0) 8 = .buf "deadbeef".toList 8 ∧
      hexblobTostring deadbeef (.blob 0) 3 = .buf "(4".toList 9 ∧
      ¬ (hexblobTostring deadbeef (.blob 0) 3).Within 3 := by
  decide

end ApkTools
