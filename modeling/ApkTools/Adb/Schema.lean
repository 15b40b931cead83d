import ApkTools.Adb.Scalar
import ApkTools.Adb.PkgInfo

/-! The schema part of apk_adb.c: the letters of legacy indices (`adb_pkg_field_index`),
the string scalar, the comparison of PkgInfo objects, and the integer defaults of the file
and path schemas. The field indices of apk_adb.h, `adb_ro_cmp` of adb.c and
`apk_version_compare_blob` are not among the sources and are given.

* `adb_pkg_field_index_spec`: the array lookup of `adb_pkg_field_index`, with its bounds
  test on a signed `char`, gives for every character the field the spec's table names for
  its letter, as an `unsigned char`, and 0 for any other character;
* `string_schema_round_trip`: a text written by `string_fromstring` reads back through
  `string_tostring`, and two written texts compare in byte order whatever database each
  was written to;
* `pkginfo_cmp_order`: over the scalar compares of the name, version and unique-id fields,
  `pkginfo_cmp` orders the PkgInfo objects of one database as soon as
  `apk_version_compare_blob` orders versions, and two objects tie exactly when they tie on
  all three fields. -/
namespace ApkTools

/-- The `ADBI_PI_*` field indices of apk_adb.h that `adb_pkg_field_index` gives. -/
structure PkgFieldIndex where
  uniqueId : Nat
  name : Nat
  version : Nat
  description : Nat
  url : Nat
  installedSize : Nat
  fileSize : Nat
  license : Nat
  arch : Nat
  depends : Nat
  installIf : Nat
  provides : Nat
  origin : Nat
  maintainer : Nat
  buildTime : Nat
  repoCommit : Nat
  replaces : Nat
  priority : Nat

/-- The initializers `MAP(ch, ndx)` of `adb_pkg_field_index`, in order. -/
def pkgFieldMap (ix : PkgFieldIndex) : List (Char × Nat) :=
  [('C', ix.uniqueId), ('P', ix.name), ('V', ix.version), ('T', ix.description),
   ('U', ix.url), ('I', ix.installedSize), ('S', ix.fileSize), ('L', ix.license),
   ('A', ix.arch), ('D', ix.depends), ('i', ix.installIf), ('p', ix.provides),
   ('o', ix.origin), ('m', ix.maintainer), ('t', ix.buildTime), ('c', ix.repoCommit),
   ('r', ix.replaces), ('k', ix.priority)]

/-- `ARRAY_SIZE(map)`: one past the largest `ch - 'A'` initialized. -/
def pkgFieldMapSize (ix : PkgFieldIndex) : Nat :=
  ((pkgFieldMap ix).map fun entry => entry.1.toNat - 'A'.toNat).foldr max 0 + 1

/-- `map[i]` of the `unsigned char` array: the last initializer at `i`, 0 for none. -/
def pkgFieldAt (ix : PkgFieldIndex) (i : Nat) : Nat :=
  (((pkgFieldMap ix).filter fun entry => entry.1.toNat - 'A'.toNat = i).getLast?.map
    (·.2 % 256)).getD 0

/-- `adb_pkg_field_index(f)` of a `char` of value `f`. -/
def adbPkgFieldIndex (ix : PkgFieldIndex) (f : Int) : Nat :=
  if f < 'A'.toNat ∨ pkgFieldMapSize ix ≤ (f - 'A'.toNat).toNat then 0
  else pkgFieldAt ix (f - 'A'.toNat).toNat

/-- Modelled from the spec: the letters of legacy indices and the PkgInfo fields they stand
for; any other character stands for no field, 0 (§4.2). -/
def specFieldIndex (ix : PkgFieldIndex) (c : Char) : Nat :=
  ([('C', ix.uniqueId), ('P', ix.name), ('V', ix.version), ('T', ix.description),
    ('U', ix.url), ('I', ix.installedSize), ('S', ix.fileSize), ('L', ix.license),
    ('A', ix.arch), ('D', ix.depends), ('i', ix.installIf), ('p', ix.provides),
    ('o', ix.origin), ('m', ix.maintainer), ('t', ix.buildTime), ('c', ix.repoCommit),
    ('r', ix.replaces), ('k', ix.priority)].lookup c).getD 0

/-- The letters of the initializers, in order. -/
def pkgFieldLetters : List Char :=
  ['C', 'P', 'V', 'T', 'U', 'I', 'S', 'L', 'A', 'D', 'i', 'p', 'o', 'm', 't', 'c', 'r', 'k']

theorem pkgFieldMap_letters (ix : PkgFieldIndex) : (pkgFieldMap ix).map (·.1) = pkgFieldLetters :=
  rfl

theorem pkgFieldMapSize_eq (ix : PkgFieldIndex) : pkgFieldMapSize ix = 52 := by
  have offsets : (pkgFieldMap ix).map (fun entry => entry.1.toNat - 'A'.toNat) =
      pkgFieldLetters.map fun c => c.toNat - 'A'.toNat := by
    rw [← pkgFieldMap_letters, List.map_map]
    rfl
  rw [pkgFieldMapSize, offsets]
  decide

/-- Every letter of the map lies between `'A'` and `'t'`. -/
theorem pkgFieldMap_range (ix : PkgFieldIndex) {entry : Char × Nat}
    (mem : entry ∈ pkgFieldMap ix) : 65 ≤ entry.1.toNat ∧ entry.1.toNat < 117 := by
  have letters := List.mem_map_of_mem (·.1) mem
  rw [pkgFieldMap_letters] at letters
  have range : ∀ c ∈ pkgFieldLetters, 65 ≤ c.toNat ∧ c.toNat < 117 := by decide
  exact range _ letters

/-- Of initializers with distinct letters, the last one for a letter is the one `lookup`
finds. -/
theorem getLast?_filter_eq_lookup {l : List (Char × Nat)} (nodup : (l.map (·.1)).Nodup)
    (c : Char) : ((l.filter fun entry => entry.1 = c).getLast?.map (·.2)) = l.lookup c := by
  induction l with
  | nil => rfl
  | cons entry l ih =>
    obtain ⟨fresh, rest⟩ := List.nodup_cons.mp nodup
    obtain ⟨k, v⟩ := entry
    by_cases key : k = c
    · have later : l.filter (fun entry => entry.1 = c) = [] :=
        List.filter_eq_nil_iff.mpr fun other mem same => fresh <| by
          rw [key, ← of_decide_eq_true same]
          exact List.mem_map_of_mem (·.1) mem
      subst key
      simp [List.filter_cons, later]
    · have skip : (c == k) = false := beq_false_of_ne (Ne.symm key)
      simp only [List.filter_cons, decide_eq_true_eq, key, if_false, List.lookup_cons, skip]
      exact ih rest

theorem toNat_charOfNat_of_lt {n : Nat} (h : n < 0xd800) : (Char.ofNat n).toNat = n := by
  unfold Char.ofNat
  rw [dif_pos (.inl h)]
  rfl

theorem toNat_charOfNat (n : Nat) : (Char.ofNat n).toNat = n ∨ (Char.ofNat n).toNat = 0 := by
  unfold Char.ofNat
  split
  · exact .inl rfl
  · exact .inr rfl

theorem specFieldIndex_eq (ix : PkgFieldIndex) (c : Char) :
    specFieldIndex ix c = ((pkgFieldMap ix).lookup c).getD 0 := rfl

theorem pkgFieldAt_eq (ix : PkgFieldIndex) {i : Nat} (hi : i < 52) :
    pkgFieldAt ix i = specFieldIndex ix (Char.ofNat (i + 65)) % 256 := by
  have a : 'A'.toNat = 65 := rfl
  have letter : (Char.ofNat (i + 65)).toNat = i + 65 := toNat_charOfNat_of_lt (by omega)
  have offset : ∀ entry ∈ pkgFieldMap ix,
      (entry.1.toNat - 'A'.toNat = i ↔ entry.1 = Char.ofNat (i + 65)) := fun entry mem => by
    have := (pkgFieldMap_range ix mem).1
    refine ⟨fun same => ?_, fun same => by rw [same, letter, a]; omega⟩
    rw [← Char.ofNat_toNat entry.1]
    exact congrArg Char.ofNat (by omega)
  have filtered : (pkgFieldMap ix).filter (fun entry => entry.1.toNat - 'A'.toNat = i) =
      (pkgFieldMap ix).filter (fun entry => entry.1 = Char.ofNat (i + 65)) :=
    List.filter_congr fun entry mem => decide_eq_decide.mpr (offset entry mem)
  have nodup : ((pkgFieldMap ix).map (·.1)).Nodup := by
    rw [pkgFieldMap_letters]
    decide
  rw [pkgFieldAt, filtered, specFieldIndex_eq, ← getLast?_filter_eq_lookup nodup]
  cases ((pkgFieldMap ix).filter fun entry => entry.1 = Char.ofNat (i + 65)).getLast? <;> rfl

/-- A character outside the letters' range stands for no field. -/
theorem specFieldIndex_other (ix : PkgFieldIndex) {c : Char}
    (outside : c.toNat < 65 ∨ 117 ≤ c.toNat) : specFieldIndex ix c = 0 := by
  have missing : (pkgFieldMap ix).lookup c = none :=
    List.lookup_eq_none_iff.mpr fun entry mem => by
      have := pkgFieldMap_range ix mem
      exact bne_iff_ne.mpr fun same => by rw [same] at outside; omega
  exact congrArg (Option.getD · 0) missing

/-- `adb_pkg_field_index` refines the spec's table: every `char`, negative ones included,
gets the field its letter stands for, as the `unsigned char` the array holds, and any other
character gets 0. -/
theorem adb_pkg_field_index_spec (ix : PkgFieldIndex) (f : Int) :
    adbPkgFieldIndex ix f =
      if 0 ≤ f then specFieldIndex ix (Char.ofNat f.toNat) % 256 else 0 := by
  have a : 'A'.toNat = 65 := rfl
  unfold adbPkgFieldIndex
  rw [pkgFieldMapSize_eq, a]
  by_cases low : f < 65
  · rw [if_pos (.inl (by exact_mod_cast low))]
    split_ifs with nonneg
    · rw [specFieldIndex_other ix (.inl ?_)]
      rcases toNat_charOfNat f.toNat with h | h <;> omega
    · rfl
  · by_cases high : 52 ≤ (f - 65).toNat
    · rw [if_pos (.inr (by exact_mod_cast high)), if_pos (by omega),
        specFieldIndex_other ix (c := Char.ofNat f.toNat) ?_]
      rcases toNat_charOfNat f.toNat with h | h <;> omega
    · rw [if_neg (by push_cast; omega), if_pos (by omega), pkgFieldAt_eq ix (by omega)]
      congr 3
      omega

/-- `string_tostring(db, val, buf, bufsz)`: the blob of the database itself, the buffer
unused. -/
def stringTostring (db : Adb) (val : Handle) (_bufsz : Nat) : Rendered :=
  match db.adbRBlob val with
  | some b => .db b
  | none => .null

/-- `string_fromstring(db, val)`. -/
def stringFromstring (db : Adb) (val : Blob) : Handle × Adb := db.adbWBlob val

/-- The string scalar round-trips a text, the empty text as `APK_BLOB_NULL`, and compares two
written texts in byte order, whichever databases they were written to. -/
theorem string_schema_round_trip (db1 db2 : Adb) (s1 s2 : Blob) (bufsz : Nat) :
    (stringTostring (stringFromstring db1 s1).2 (stringFromstring db1 s1).1 bufsz).text =
        (if s1 = [] then none else some s1) ∧
      stringCompare (stringFromstring db1 s1).2 (stringFromstring db1 s1).1
        (stringFromstring db2 s2).2 (stringFromstring db2 s2).1 = byteOrder s1 s2 := by
  have read1 := db1.adbRBlob_adbWBlob s1
  have read2 := db2.adbRBlob_adbWBlob s2
  unfold stringTostring stringFromstring stringCompare apkBlobSort
  rw [read1, read2]
  constructor
  · split_ifs <;> rfl
  · split_ifs with empty1 empty2 empty2 <;> simp [empty1, empty2]

/-- A three-way comparison that orders its values: the sign flips with the arguments, and
"not greater" is transitive. -/
structure CmpOrder {α : Type} (cmp : α → α → Int) : Prop where
  swap : ∀ a b, cmp a b < 0 ↔ 0 < cmp b a
  trans : ∀ a b c, cmp a b ≤ 0 → cmp b c ≤ 0 → cmp a c ≤ 0

/-- The first comparison, its ties broken by the second. -/
def lexCmp {α : Type} (cmp cmp' : α → α → Int) (a b : α) : Int :=
  if cmp a b ≠ 0 then cmp a b else cmp' a b

theorem lexCmp_eq_zero {α : Type} (cmp cmp' : α → α → Int) (a b : α) :
    lexCmp cmp cmp' a b = 0 ↔ cmp a b = 0 ∧ cmp' a b = 0 := by
  unfold lexCmp
  split_ifs <;> simp_all

namespace CmpOrder
variable {α β : Type} {cmp cmp' : α → α → Int}

theorem comap (h : CmpOrder cmp) (g : β → α) : CmpOrder fun x y => cmp (g x) (g y) :=
  ⟨fun _ _ => h.swap _ _, fun _ _ _ => h.trans _ _ _⟩

theorem lex (h : CmpOrder cmp) (h' : CmpOrder cmp') : CmpOrder (lexCmp cmp cmp') where
  swap a b := by
    have := h.swap a b
    have := h.swap b a
    have := h'.swap a b
    unfold lexCmp
    split_ifs <;> omega
  trans a b c hab hbc := by
    have := h.swap a b
    have := h.swap b c
    have := h.swap a c
    have := h.swap c a
    have := h.trans a b c
    have := h.trans b c a
    have := h.trans c a b
    have := h.trans c b a
    have := h.swap b a
    have := h.swap c b
    have := h'.trans a b c
    unfold lexCmp at *
    split_ifs at * <;> omega

end CmpOrder

theorem byteOrder_swap (a b : Blob) : byteOrder b a = -byteOrder a b := by
  induction a generalizing b with
  | nil => cases b <;> rfl
  | cons x xs ih =>
    cases b with
    | nil => rfl
    | cons y ys =>
      simp only [byteOrder, ih ys]
      split_ifs <;> omega

theorem byteOrder_trans (a b c : Blob) (hab : byteOrder a b ≤ 0) (hbc : byteOrder b c ≤ 0) :
    byteOrder a c ≤ 0 := by
  induction a generalizing b c with
  | nil => cases c <;> simp [byteOrder]
  | cons x xs ih =>
    cases b with
    | nil => simp [byteOrder] at hab
    | cons y ys =>
      cases c with
      | nil => simp [byteOrder] at hbc
      | cons z zs =>
        simp only [byteOrder] at *
        split_ifs at * <;> first | omega | exact ih ys zs hab hbc

/-- Byte order orders blobs. -/
theorem byteOrder_order : CmpOrder byteOrder :=
  ⟨fun a b => by rw [byteOrder_swap a b]; omega, byteOrder_trans⟩

/-- `string_compare` orders the handles of one database. -/
theorem stringCompare_order (db : Adb) : CmpOrder fun v1 v2 => stringCompare db v1 db v2 :=
  byteOrder_order.comap fun v => (db.adbRBlob v).getD []

/-- `int_compare` orders the handles of one database. -/
theorem intCompare_order (db : Adb) : CmpOrder fun v1 v2 => intCompare db v1 db v2 where
  swap a b := by
    unfold intCompare
    dsimp only
    split_ifs <;> omega
  trans a b c := by
    unfold intCompare
    dsimp only
    split_ifs <;> omega

section
variable (apkVersionCompareBlob : Option Blob → Option Blob → Nat)

/-- `apk_version_compare_blob` orders versions: it says LESS one way exactly when it says
GREATER the other, and "not GREATER" is transitive. -/
structure VersionOrder : Prop where
  swap : ∀ a b, apkVersionCompareBlob a b = apkVersionLess ↔
    apkVersionCompareBlob b a = apkVersionGreater
  trans : ∀ a b c, apkVersionCompareBlob a b ≠ apkVersionGreater →
    apkVersionCompareBlob b c ≠ apkVersionGreater → apkVersionCompareBlob a c ≠ apkVersionGreater

/-- `version_compare` orders the handles of one database when the versions are ordered. -/
theorem versionCompare_order (db : Adb) (order : VersionOrder apkVersionCompareBlob) :
    CmpOrder fun v1 v2 => versionCompare apkVersionCompareBlob db v1 db v2 where
  swap a b := by
    have := order.swap (db.adbRBlob a) (db.adbRBlob b)
    unfold versionCompare apkVersionLess apkVersionGreater at *
    dsimp only
    split_ifs <;> omega
  trans a b c := by
    have := order.trans (db.adbRBlob a) (db.adbRBlob b) (db.adbRBlob c)
    unfold versionCompare apkVersionLess apkVersionGreater at *
    dsimp only
    split_ifs <;> omega

/-- Modelled from the spec: `adb_ro_cmp(o1, o2, i)`, field `i` of each object compared by
the `compare` its schema gives the field, each side read in its own database (§3). -/
def adbRoCmp (compare : Adb → Handle → Adb → Handle → Int) (o1 o2 : AdbObj) (i : Nat) : Int :=
  compare o1.db (o1.fields i) o2.db (o2.fields i)

/-- `pkginfo_cmp(o1, o2)`, with the compares `schema_pkginfo` gives its name
(`scalar_string`), version (`scalar_version`) and unique-id (`scalar_int`) fields. -/
def pkginfoCmp (ix : PkgFieldIndex) (o1 o2 : AdbObj) : Int :=
  let r := adbRoCmp stringCompare o1 o2 ix.name
  if r ≠ 0 then r else
  let r := adbRoCmp (versionCompare apkVersionCompareBlob) o1 o2 ix.version
  if r ≠ 0 then r else
  adbRoCmp intCompare o1 o2 ix.uniqueId

theorem pkginfoCmp_eq_lexCmp (ix : PkgFieldIndex) :
    pkginfoCmp apkVersionCompareBlob ix =
      lexCmp (fun o1 o2 => adbRoCmp stringCompare o1 o2 ix.name)
        (lexCmp (fun o1 o2 => adbRoCmp (versionCompare apkVersionCompareBlob) o1 o2 ix.version)
          fun o1 o2 => adbRoCmp intCompare o1 o2 ix.uniqueId) := rfl

/-- `pkginfo_cmp` orders the PkgInfo objects of one database, by name, then version, then
unique-id, as soon as the versions are ordered; two objects tie exactly when they tie on all
three fields. -/
theorem pkginfo_cmp_order (ix : PkgFieldIndex) (db : Adb)
    (order : VersionOrder apkVersionCompareBlob) :
    CmpOrder (fun f1 f2 : Nat → Handle => pkginfoCmp apkVersionCompareBlob ix ⟨db, f1⟩ ⟨db, f2⟩) ∧
      ∀ o1 o2, pkginfoCmp apkVersionCompareBlob ix o1 o2 = 0 ↔
        adbRoCmp stringCompare o1 o2 ix.name = 0 ∧
          adbRoCmp (versionCompare apkVersionCompareBlob) o1 o2 ix.version = 0 ∧
          adbRoCmp intCompare o1 o2 ix.uniqueId = 0 := by
  have names := (stringCompare_order db).comap fun f : Nat → Handle => f ix.name
  have versions := (versionCompare_order apkVersionCompareBlob db order).comap
    fun f : Nat → Handle => f ix.version
  have uniqueIds := (intCompare_order db).comap fun f : Nat → Handle => f ix.uniqueId
  refine ⟨names.lex (versions.lex uniqueIds), fun o1 o2 => ?_⟩
  rw [pkginfoCmp_eq_lexCmp, lexCmp_eq_zero, lexCmp_eq_zero]

end

/-- Versions compared as bytes. -/
def byteVersions (a b : Option Blob) : Nat :=
  if apkBlobSort a b < 0 then apkVersionLess
  else if 0 < apkBlobSort a b then apkVersionGreater else apkVersionEqual

theorem byteVersions_order : VersionOrder byteVersions where
  swap a b := by
    have := byteOrder_swap (a.getD []) (b.getD [])
    unfold byteVersions apkBlobSort apkVersionLess apkVersionGreater apkVersionEqual
    split_ifs <;> omega
  trans a b c := by
    have := byteOrder_trans (a.getD []) (b.getD []) (c.getD [])
    unfold byteVersions apkBlobSort apkVersionLess apkVersionGreater apkVersionEqual
    split_ifs <;> omega

/-- The `ADBI_PI_*` indices numbered from 1 in the order `schema_pkginfo` lists its fields. -/
def schemaOrderIndex : PkgFieldIndex :=
  ⟨3, 1, 2, 4, 9, 12, 13, 6, 5, 15, 18, 16, 7, 8, 11, 10, 17, 14⟩

theorem pkginfo_cmp_order_bytes :
    VersionOrder byteVersions ∧
      CmpOrder (fun f1 f2 : Nat → Handle =>
        pkginfoCmp byteVersions schemaOrderIndex ⟨Adb.empty, f1⟩ ⟨Adb.empty, f2⟩) ∧
      ∀ o1 o2, pkginfoCmp byteVersions schemaOrderIndex o1 o2 = 0 ↔
        adbRoCmp stringCompare o1 o2 schemaOrderIndex.name = 0 ∧
          adbRoCmp (versionCompare byteVersions) o1 o2 schemaOrderIndex.version = 0 ∧
          adbRoCmp intCompare o1 o2 schemaOrderIndex.uniqueId = 0 :=
  ⟨byteVersions_order, pkginfo_cmp_order byteVersions schemaOrderIndex Adb.empty byteVersions_order⟩

/-- `dependency_cmp(o1, o2)`: by the name field, a `scalar_string`. -/
def dependencyCmp (adbiDepName : Nat) (o1 o2 : AdbObj) : Int :=
  adbRoCmp stringCompare o1 o2 adbiDepName

/-- The `ADBI_FI_*` field indices of apk_adb.h that the functions of the file and path
schemas read. -/
structure FileFieldIndex where
  name : Nat
  uid : Nat
  gid : Nat
  mode : Nat

/-- The `get_default_int` of the file and path schemas, with the schema's mode: 0 for the
uid and gid, the mode for the mode, and `-1` as a `uint32_t` for any other field. -/
def getDefaultInt (fi : FileFieldIndex) (mode i : Nat) : Nat :=
  if i = fi.uid ∨ i = fi.gid then 0 else if i = fi.mode then mode else 0xffffffff

/-- `file_get_default_int(i)`. -/
def fileGetDefaultInt (fi : FileFieldIndex) (i : Nat) : Nat := getDefaultInt fi 0o644 i

/-- `path_get_default_int(i)`. -/
def pathGetDefaultInt (fi : FileFieldIndex) (i : Nat) : Nat := getDefaultInt fi 0o755 i

/-- `file_cmp(o1, o2)`, the compare of the file and path schemas: by the name field, a
`scalar_string`. -/
def fileCmp (fi : FileFieldIndex) (o1 o2 : AdbObj) : Int := adbRoCmp stringCompare o1 o2 fi.name

end ApkTools
