import ApkTools.Version

/-! `dependency_fromstring` and `dependency_tostring` of `schema_dependency`, over the
three fields of a dependency object. The object builder of adb.c is not among the
sources; what the two functions need of it is modelled from §4.5 of the spec. -/
namespace ApkTools

/-- The fields of a dependency object, `none` where the field holds `ADB_NULL`. -/
structure DepObj where
  name : Option Blob
  version : Option Blob
  matchMask : Option Nat
  deriving DecidableEq, Repr

/-- Modelled from the spec: the value `adb_wo_blob` leaves in a field. An empty blob,
`APK_BLOB_NULL` among them, has no pool entry and leaves the field `ADB_NULL`. -/
def adbWBlob (b : Blob) : Option Blob := if b = [] then none else some b

/-- The end of `dependency_fromstring`: cut a repository tag off the name, then
`adb_wo_blob` the name, and the version and match unless the mask is ANY. -/
def depWrite (bname : Blob) (mask : Nat) (bver : Blob) : DepObj :=
  let bname := match apkBlobCspn apkSpnRepotagSeparator bname with
    | some (name, _) => name
    | none => bname
  { name := adbWBlob bname
    version := if mask ≠ apkDepmaskAny then adbWBlob bver else none
    matchMask := if mask ≠ apkDepmaskAny ∧ mask ≠ apkVersionEqual then some mask else none }

/-- `dependency_fromstring` after its test for `!`, from the mask that test left. -/
def depParse (mask : Nat) (bdep : Blob) : Option DepObj :=
  match apkBlobCspn apkSpnDependencyComparer bdep with
  | some (bname, bop) =>
    if mask = 0 then none
    else match apkBlobSpn apkSpnDependencyComparer bop with
      | none => none
      | some (bop, bver) =>
        let mask := opMask bop
        if mask &&& apkDepmaskChecksum ≠ apkDepmaskChecksum ∧ apkVersionValidate bver = false
        then none
        else some (depWrite bname mask bver)
  | none => some (depWrite bdep mask [])

/-- `dependency_fromstring(obj, bdep)` on a freshly reset object: the fields it writes,
or `none` where it returns `-EAPKDEPFORMAT`, having written nothing. The C code reads
`bdep.ptr[0]` even of an empty blob; here an empty blob has no `!`. -/
def dependencyFromstring : Blob → Option DepObj
  | '!' :: bdep => depParse (apkDepmaskAny ||| apkVersionConflict) bdep
  | bdep => depParse apkDepmaskAny bdep

/-- What a renderer hands back: `APK_BLOB_NULL`, a blob of the database, or
`APK_BLOB_PTR_LEN(buf, n)` where `written` is what `snprintf` left in `buf` before its
NUL and `n` is what it returned. -/
inductive Rendered
  | null
  | db (b : Blob)
  | buf (written : Blob) (n : Nat)
  deriving DecidableEq, Repr

/-- The bytes of the returned blob, when they are all there to be read. -/
def Rendered.text : Rendered → Option Blob
  | .null => none
  | .db b => some b
  | .buf written n => if n ≤ written.length then some (written.take n) else none

/-- `snprintf(buf, bufsz, ...)` of the full text `s`: at most `bufsz - 1` bytes and a
NUL go to `buf`, and the length of `s` is returned. -/
def snprintf (bufsz : Nat) (s : Blob) : Rendered := .buf (s.take (bufsz - 1)) s.length

theorem snprintf_text {bufsz : Nat} {s : Blob} (fits : s.length < bufsz) :
    (snprintf bufsz s).text = some s := by
  simp [snprintf, Rendered.text, List.take_of_length_le (by omega : s.length ≤ bufsz - 1)]

/-- What `BLOB_FMT` (`%.*s`) prints of a blob: its bytes up to the first NUL. -/
def blobPrintf (b : Blob) : Blob := b.takeWhile (· ≠ '\x00')

/-- `mask & ~bits` on an `unsigned int`. -/
def maskOff (mask bits : Nat) : Nat := mask &&& (0xFFFFFFFF ^^^ bits)

/-- `dependency_tostring(obj, buf, bufsz)`. -/
def dependencyTostring (d : DepObj) (bufsz : Nat) : Rendered :=
  match d.name, d.version with
  | none, _ => .null
  | some name, none => .db name
  | some name, some ver =>
    let mask := match d.matchMask with
      | some m => if m = 0 then apkVersionEqual else m
      | none => apkVersionEqual
    snprintf bufsz ((if mask &&& apkVersionConflict ≠ 0 then ['!'] else []) ++
      blobPrintf name ++ apkVersionOpString (maskOff mask apkVersionConflict) ++ blobPrintf ver)

/-- The match mask a dependency stands for: its match field, else EQUAL when it has a
version (§4.4: a missing match means EQUAL), else ANY. -/
def DepObj.effMask (d : DepObj) : Nat :=
  match d.matchMask with
  | some m => m
  | none => if d.version.isSome then apkVersionEqual else apkDepmaskAny

end ApkTools
