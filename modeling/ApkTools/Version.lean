import ApkTools.Blob

/-! The dependency match bits and the two helpers of `apk_version.c` that the
dependency parser and renderer call. `apk_version.h` and `apk_version.c` are not
among the sources: the bit values are those §9 of the spec fixes, and the operator
table is the one the parser's own grammar comment lists. -/
namespace ApkTools

/-- Modelled from the spec: the comparison bits of §9 (`LESS=1, EQUAL=2, GREATER=4,
FUZZY=8`), kept explicit for on-disk compatibility. -/
def apkVersionLess : Nat := 1
def apkVersionEqual : Nat := 2
def apkVersionGreater : Nat := 4
def apkVersionFuzzy : Nat := 8

/-- `APK_VERSION_CONFLICT`, defined in apk_adb.c itself. -/
def apkVersionConflict : Nat := 16

/-- Modelled from the spec: `APK_DEPMASK_ANY`, every comparison bit, the mask of a
dependency with no operator. -/
def apkDepmaskAny : Nat := apkVersionLess ||| apkVersionEqual ||| apkVersionGreater ||| apkVersionFuzzy

/-- Modelled from the spec: `APK_DEPMASK_CHECKSUM`, the `><` mask of a checksum
dependency, whose version is not validated. -/
def apkDepmaskChecksum : Nat := apkVersionLess ||| apkVersionGreater

theorem apkVersionEqual_ne_any : apkVersionEqual ≠ apkDepmaskAny := by decide

/-- Modelled from the spec: `apk_spn_dependency_comparer`, the operator bytes
`<`, `>`, `~`, `=` of §4.4. -/
def apkSpnDependencyComparer (c : Char) : Bool :=
  c == '<' || c == '>' || c == '~' || c == '='

/-- Modelled from the spec: `apk_spn_repotag_separator`, the `@` of `name@tag`. -/
def apkSpnRepotagSeparator (c : Char) : Bool := c == '@'

/-- What one operator byte adds in the `switch` of `dependency_fromstring`. -/
def opBits : Char → Nat
  | '<' => apkVersionLess
  | '>' => apkVersionGreater
  | '~' => apkVersionFuzzy ||| apkVersionEqual
  | '=' => apkVersionEqual
  | _ => 0

/-- `mask = 0; for (i = 0; i < bop.len; i++) switch (bop.ptr[i]) ...` -/
def opMask (bop : Blob) : Nat := bop.foldl (fun mask c => mask ||| opBits c) 0

/-- The operators of the grammar comment `[<,<=,<~,=,~,>~,>=,>,><]` in
`dependency_fromstring`. -/
def opTable : List Blob := ["<", "<=", "<~", "=", "~", ">~", ">=", ">", "><"].map String.toList

/-- Modelled from the spec: `apk_version_op_string(mask)`, the operator string "derived
from `mask & ~CONFLICT`" (§4.4): the operator of the grammar whose mask it is, and `?`
for a mask no operator of the grammar denotes. -/
def apkVersionOpString (mask : Nat) : Blob :=
  ((opTable.find? fun op => opMask op == mask).getD ['?'])

/-- The masks `apkVersionOpString` has an operator for. -/
def Renderable (mask : Nat) : Prop := ∃ op ∈ opTable, opMask op = mask

instance : DecidablePred Renderable := fun _ => List.decidableBEx _ _

theorem opMask_apkVersionOpString {mask : Nat} (h : Renderable mask) :
    opMask (apkVersionOpString mask) = mask := by
  obtain ⟨op, mem, hop⟩ := h
  cases hf : opTable.find? (fun op => opMask op == mask) with
  | none =>
    have := List.find?_eq_none.mp hf op mem
    simp [hop] at this
  | some op' =>
    simpa [apkVersionOpString, hf] using List.find?_some hf

/-- Every operator of the table is a non-empty run of operator bytes. -/
theorem opTable_comparers :
    ∀ op ∈ opTable, op ≠ [] ∧ ∀ c ∈ op, apkSpnDependencyComparer c = true := by
  decide

theorem apkVersionOpString_mem {mask : Nat} (h : Renderable mask) :
    apkVersionOpString mask ∈ opTable := by
  obtain ⟨op, mem, hop⟩ := h
  cases hf : opTable.find? (fun op => opMask op == mask) with
  | none =>
    have := List.find?_eq_none.mp hf op mem
    simp [hop] at this
  | some op' => simpa [apkVersionOpString, hf] using List.mem_of_find?_eq_some hf

/-- The suffix names of the Alpine version grammar: pre-release tags, then
post-release ones. -/
def versionSuffixes : List Blob :=
  ["alpha", "beta", "pre", "rc", "cvs", "svn", "git", "hg", "p"].map String.toList

/-- Where the version validator is in a version string. -/
inductive VerPos
  | num
  | digits
  | letter
  | suffix (name : Blob)
  | suffixNo
  | minus
  | revision0
  | revision
  | bad
  deriving DecidableEq, Repr

/-- One byte of `numbers[letter](_suffix[number])*[-rnumber]`. -/
def verNext : VerPos → Char → VerPos
  | .num, c => if c.isDigit then .digits else .bad
  | .digits, c =>
    if c.isDigit then .digits else if c = '.' then .num else if c.isLower then .letter
    else if c = '_' then .suffix [] else if c = '-' then .minus else .bad
  | .letter, c => if c = '_' then .suffix [] else if c = '-' then .minus else .bad
  | .suffix n, c =>
    if c.isLower ∧ versionSuffixes.any (fun s => (n ++ [c]).isPrefixOf s) then .suffix (n ++ [c])
    else if n ∉ versionSuffixes then .bad
    else if c.isDigit then .suffixNo else if c = '_' then .suffix [] else if c = '-' then .minus
    else .bad
  | .suffixNo, c =>
    if c.isDigit then .suffixNo else if c = '_' then .suffix [] else if c = '-' then .minus else .bad
  | .minus, c => if c = 'r' then .revision0 else .bad
  | .revision0, c => if c.isDigit then .revision else .bad
  | .revision, c => if c.isDigit then .revision else .bad
  | .bad, _ => .bad

def VerPos.complete : VerPos → Bool
  | .digits | .letter | .suffixNo | .revision => true
  | .suffix n => n ∈ versionSuffixes
  | _ => false

/-- Modelled from the spec: `apk_version_validate(ver)`, whether `ver` follows the
Alpine version grammar of §3 (numeric components, a letter, pre-release tags, a build
revision). -/
def apkVersionValidate (ver : Blob) : Bool := (ver.foldl verNext .num).complete

example : apkVersionValidate "1.2.3-r4".toList = true := by decide
example : apkVersionValidate "1.2_alpha1".toList = true := by decide
example : apkVersionValidate "1.2.".toList = false := by decide

end ApkTools
