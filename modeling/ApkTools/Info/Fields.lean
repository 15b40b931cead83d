import Mathlib

/-! What `apk info` prints of one package (app_info.c): the table `info_fields`, the
printers it names, and `info_subaction`, which calls the printer of each field whose mask
the subaction mask covers, in the table's order, and ends the package with an empty line.
Output is the list of pieces the printers write to standard output. What the printers read
from outside app_info.c (how a dependency is written, human-readable sizes, the reverse
dependencies and the installed package of a name, the repositories) is `InfoDb`.

* `info_replaces_with_provides`: `Replaces` has the mask of `Provides`, so whatever the
  subaction mask, `Replaces` is printed exactly when `Provides` is, and no field of the
  table has the mask `APK_INFO_REPLACES`;
* `print_info_rinstall_if_header`: `Reverse-Install-If` prints its header once, before the
  first installed package that install-ifs on the package, and not at all without one;
* `print_info_repository_tags`: under each repository that holds the package, `Repository`
  lists every tag that allows some repository holding the package, whether or not it
  allows that one. -/
namespace ApkTools.Info

/-- `BIT(n)` of apk_defines.h. -/
def bit (n : Nat) : Nat := 2 ^ n

/-- The `APK_INFO_*` bits of the subaction mask. -/
def apkInfoDesc : Nat := bit 1
def apkInfoUrl : Nat := bit 2
def apkInfoSize : Nat := bit 3
def apkInfoDepends : Nat := bit 4
def apkInfoProvides : Nat := bit 5
def apkInfoRdepends : Nat := bit 6
def apkInfoTriggers : Nat := bit 7
def apkInfoInstallIf : Nat := bit 8
def apkInfoRinstallIf : Nat := bit 9
def apkInfoReplaces : Nat := bit 10
def apkInfoLicense : Nat := bit 11
def apkInfoMaintainer : Nat := bit 12
def apkInfoOrigin : Nat := bit 13
def apkInfoRepository : Nat := bit 14

/-- The fields of `struct apk_installed_package` the printers read; `δ` is the type of
dependencies. -/
structure Ipkg (δ : Type) where
  replaces : List δ
  triggers : List String

/-- The fields of `struct apk_package`, and the name of its `struct apk_name`, that the
printers read; a blob or string that may be `NULL` is an option, and `repos` is the mask of
the repositories holding the package. -/
structure Pkg (δ : Type) where
  name : String
  version : Option String
  origin : Option String
  description : Option String
  url : Option String
  license : Option String
  maintainer : Option String
  size : Nat
  installedSize : Nat
  depends : List δ
  provides : List δ
  installIf : List δ
  ipkg : Option (Ipkg δ)
  repos : Nat

/-- The offsets into `struct apk_package` the table hands `print_info_blob`. -/
inductive BlobOffset
  | version | origin | license | maintainer
  deriving DecidableEq, Repr

/-- The offsets the table hands `print_info_str`. -/
inductive StrOffset
  | description | url
  deriving DecidableEq, Repr

/-- The offsets the table hands `print_info_size`. -/
inductive SizeOffset
  | size | installedSize
  deriving DecidableEq, Repr

/-- The offsets the table hands `print_info_dep_list`. -/
inductive DepsOffset
  | depends | provides | installIf
  deriving DecidableEq, Repr

section
variable {δ : Type}

def Pkg.blob (pkg : Pkg δ) : BlobOffset → Option String
  | .version => pkg.version
  | .origin => pkg.origin
  | .license => pkg.license
  | .maintainer => pkg.maintainer

def Pkg.str (pkg : Pkg δ) : StrOffset → Option String
  | .description => pkg.description
  | .url => pkg.url

def Pkg.sizeAt (pkg : Pkg δ) : SizeOffset → Nat
  | .size => pkg.size
  | .installedSize => pkg.installedSize

def Pkg.deps (pkg : Pkg δ) : DepsOffset → List δ
  | .depends => pkg.depends
  | .provides => pkg.provides
  | .installIf => pkg.installIf

end

/-- The printers of the table, each with the offset it is handed. -/
inductive InfoPrinter
  | printInfoName
  | printInfoBlob (offset : BlobOffset)
  | printInfoStr (offset : StrOffset)
  | printInfoSize (offset : SizeOffset)
  | printInfoDepList (offset : DepsOffset)
  | printInfoIdepList
  | printInfoRevdep
  | printInfoRinstallIf
  | printInfoRepository
  | printInfoTriggers
  deriving DecidableEq, Repr

/-- `struct info_field`. -/
structure InfoField where
  fieldName : String
  fieldMask : Nat
  action : InfoPrinter
  deriving DecidableEq, Repr

/-- `info_fields`. -/
def infoFields : List InfoField :=
  [⟨"Package", 0, .printInfoName⟩,
   ⟨"Version", 0, .printInfoBlob .version⟩,
   ⟨"Repository", apkInfoRepository, .printInfoRepository⟩,
   ⟨"Source-Package", apkInfoOrigin, .printInfoBlob .origin⟩,
   ⟨"Description", apkInfoDesc, .printInfoStr .description⟩,
   ⟨"URL", apkInfoUrl, .printInfoStr .url⟩,
   ⟨"License", apkInfoLicense, .printInfoBlob .license⟩,
   ⟨"Maintainer", apkInfoMaintainer, .printInfoBlob .maintainer⟩,
   ⟨"Download-Size", apkInfoSize, .printInfoSize .size⟩,
   ⟨"Installed-Size", apkInfoSize, .printInfoSize .installedSize⟩,
   ⟨"Depends", apkInfoDepends, .printInfoDepList .depends⟩,
   ⟨"Provides", apkInfoProvides, .printInfoDepList .provides⟩,
   ⟨"Replaces", apkInfoProvides, .printInfoIdepList⟩,
   ⟨"Install-If", apkInfoInstallIf, .printInfoDepList .installIf⟩,
   ⟨"Reverse-Depends", apkInfoRdepends, .printInfoRevdep⟩,
   ⟨"Reverse-Install-If", apkInfoRinstallIf, .printInfoRinstallIf⟩,
   ⟨"Triggers", apkInfoTriggers, .printInfoTriggers⟩]

/-- What the printers read from code outside app_info.c and from the database. -/
structure InfoDb (δ : Type) where
  /-- What `apk_blob_push_dep` and the push of a space leave in the 256-byte buffer of
  `print_info_dep_array`: the text, or `none` for the null blob of a push that did not
  fit. -/
  pushDep : δ → Option String
  /-- The name a dependency is on. -/
  depName : δ → String
  /-- `apk_get_human_size`: the size in its unit, and the unit. -/
  humanSize : Nat → Nat × String
  /-- The packages `apk_pkg_foreach_reverse_dependency` visits for a package. -/
  reverseDeps : Pkg δ → List (Pkg δ)
  /-- `name->rinstall_if` of the name of a package. -/
  rinstallIf : String → List String
  /-- `apk_pkg_get_installed`. -/
  getInstalled : String → Option (Pkg δ)
  root : String
  installedFile : String
  /-- `db->repos[i].url` for `i < db->num_repos`. -/
  repos : List String
  /-- `db->repo_tags[j]`, its tag and `allowed_repos`, for `j < db->num_repo_tags`. -/
  repoTags : List (String × Nat)

section
variable {δ : Type} (db : InfoDb δ)

/-- `PKG_VER_FMT` of a package: its name, `-` and its version. -/
def pkgVer (pkg : Pkg δ) : String := pkg.name ++ "-" ++ pkg.version.getD ""

def printInfoName (field : InfoField) (pkg : Pkg δ) : List String :=
  [field.fieldName ++ ": " ++ pkg.name ++ "\n"]

/-- What `print_info_blob` and `print_info_str` print: the field and its value, nothing
for `NULL`. -/
def printIfSet (field : InfoField) : Option String → List String
  | some value => [field.fieldName ++ ": " ++ value ++ "\n"]
  | none => []

def printInfoBlob (field : InfoField) (pkg : Pkg δ) (offset : BlobOffset) : List String :=
  printIfSet field (pkg.blob offset)

def printInfoStr (field : InfoField) (pkg : Pkg δ) (offset : StrOffset) : List String :=
  printIfSet field (pkg.str offset)

def printInfoSize (field : InfoField) (pkg : Pkg δ) (offset : SizeOffset) : List String :=
  let (humanSize, sizeUnit) := db.humanSize (pkg.sizeAt offset)
  [field.fieldName ++ ": " ++ toString humanSize ++ " " ++ sizeUnit ++ "\n"]

/-- `print_info_dep_array`: nothing for no dependencies, else the header, what each
dependency left in the buffer (nothing for one that did not fit), and a newline. -/
def printInfoDepArray (field : InfoField) (deps : List δ) : List String :=
  if deps.isEmpty then []
  else [field.fieldName ++ ": "] ++ deps.map (fun d => (db.pushDep d).getD "") ++ ["\n"]

def printInfoDepList (field : InfoField) (pkg : Pkg δ) (offset : DepsOffset) : List String :=
  printInfoDepArray db field (pkg.deps offset)

def printInfoIdepList (field : InfoField) (pkg : Pkg δ) : List String :=
  match pkg.ipkg with
  | none => []
  | some ipkg => printInfoDepArray db field ipkg.replaces

/-- `print_info_revdep`: the header is printed whether or not a package follows. -/
def printInfoRevdep (field : InfoField) (pkg : Pkg δ) : List String :=
  [field.fieldName ++ ": "] ++ (db.reverseDeps pkg).map (fun pkg0 => pkgVer pkg0 ++ " ") ++
    ["\n"]

/-- The loop of `print_info_rinstall_if` over the names of `name->rinstall_if`, with
`printed_header`: each name's installed package is printed if one of its install-if
dependencies is on the package's name. -/
def printInfoRinstallIfLoop (field : InfoField) (pkg : Pkg δ) :
    Bool → List String → List String
  | _, [] => []
  | printedHeader, name0 :: names =>
    match db.getInstalled name0 with
    | none => printInfoRinstallIfLoop field pkg printedHeader names
    | some pkg0 =>
      if pkg0.installIf.any fun d => db.depName d == pkg.name then
        (if printedHeader then [] else [field.fieldName ++ ":\n"]) ++
          ("  " ++ pkgVer pkg0 ++ "\n") :: printInfoRinstallIfLoop field pkg true names
      else printInfoRinstallIfLoop field pkg printedHeader names

def printInfoRinstallIf (field : InfoField) (pkg : Pkg δ) : List String :=
  if (db.rinstallIf pkg.name).isEmpty then []
  else printInfoRinstallIfLoop db field pkg false (db.rinstallIf pkg.name)

/-- `print_info_repository`: the header, the installed database if the package is
installed, then for each repository holding the package a line per tag that allows some
repository holding the package. -/
def printInfoRepository (field : InfoField) (pkg : Pkg δ) : List String :=
  [field.fieldName ++ ":\n"] ++
    (if pkg.ipkg.isSome then ["  " ++ db.root ++ db.installedFile ++ "\n"] else []) ++
    (db.repos.enum.map fun (i, url) =>
      if bit i &&& pkg.repos = 0 then []
      else (db.repoTags.enum.map fun (j, tag, allowed) =>
        if allowed &&& pkg.repos = 0 then []
        else ["  " ++ tag ++ (if j = 0 then "" else " ") ++ url ++ "\n"]).flatten).flatten

def printInfoTriggers (field : InfoField) (pkg : Pkg δ) : List String :=
  match pkg.ipkg with
  | none => []
  | some ipkg =>
    if ipkg.triggers.isEmpty then []
    else [field.fieldName ++ ": "] ++ ipkg.triggers.map (· ++ " ") ++ ["\n"]

/-- The installed packages of `names` that install-if on the package, in order. -/
def rinstallIfPkgs (pkg : Pkg δ) (names : List String) : List (Pkg δ) :=
  names.filterMap fun name0 => (db.getInstalled name0).filter fun pkg0 =>
    pkg0.installIf.any fun d => db.depName d == pkg.name

/-- `info_fields[i].action(&info_fields[i], ctx->db, pkg)`. -/
def fieldAction (field : InfoField) (pkg : Pkg δ) : List String :=
  match field.action with
  | .printInfoName => printInfoName field pkg
  | .printInfoBlob offset => printInfoBlob field pkg offset
  | .printInfoStr offset => printInfoStr field pkg offset
  | .printInfoSize offset => printInfoSize db field pkg offset
  | .printInfoDepList offset => printInfoDepList db field pkg offset
  | .printInfoIdepList => printInfoIdepList db field pkg
  | .printInfoRevdep => printInfoRevdep db field pkg
  | .printInfoRinstallIf => printInfoRinstallIf db field pkg
  | .printInfoRepository => printInfoRepository db field pkg
  | .printInfoTriggers => printInfoTriggers field pkg

/-- The fields `info_subaction` prints under a subaction mask: those of the table whose
mask it covers, in order. -/
def infoPrinted (subactionMask : Nat) : List InfoField :=
  infoFields.filter fun field => field.fieldMask &&& subactionMask == field.fieldMask

/-- `info_subaction(ctx, pkg)`. -/
def infoSubaction (subactionMask : Nat) (pkg : Pkg δ) : List String :=
  ((infoPrinted subactionMask).map fun field => fieldAction db field pkg).flatten ++ ["\n"]

end

/-! ## The fields a mask selects -/

theorem mem_infoPrinted_names (subactionMask : Nat) (name : String) :
    name ∈ (infoPrinted subactionMask).map (·.fieldName) ↔
      ∃ field ∈ infoFields, field.fieldMask &&& subactionMask = field.fieldMask ∧
        field.fieldName = name := by
  simp [infoPrinted, and_assoc]

/-- A field whose mask is the bit `k` is printed exactly when the mask has bit `k`. -/
theorem bit_covered (k subactionMask : Nat) :
    bit k &&& subactionMask = bit k ↔ subactionMask.testBit k := by
  cases h : subactionMask.testBit k <;> simp [bit, Nat.two_pow_and, h, (Nat.two_pow_pos k).ne]

theorem info_replaces_with_provides (subactionMask : Nat) :
    ("Replaces" ∈ (infoPrinted subactionMask).map (·.fieldName) ↔
      "Provides" ∈ (infoPrinted subactionMask).map (·.fieldName)) ∧
      ∀ field ∈ infoFields, field.fieldMask ≠ apkInfoReplaces := by
  refine ⟨?_, by decide⟩
  simp only [mem_infoPrinted_names, infoFields, List.mem_cons, List.mem_singleton,
    List.not_mem_nil]
  simp

/-! ## Printers -/

section
variable {δ : Type} (db : InfoDb δ)

theorem printInfoRinstallIfLoop_eq (field : InfoField) (pkg : Pkg δ) (names : List String) :
    ∀ printedHeader, printInfoRinstallIfLoop db field pkg printedHeader names =
      (if printedHeader || (rinstallIfPkgs db pkg names).isEmpty then []
        else [field.fieldName ++ ":\n"]) ++
        (rinstallIfPkgs db pkg names).map fun pkg0 => "  " ++ pkgVer pkg0 ++ "\n" := by
  induction names with
  | nil => simp [printInfoRinstallIfLoop, rinstallIfPkgs]
  | cons name0 names ih =>
    intro printedHeader
    cases installed : db.getInstalled name0 with
    | none =>
      have skip : rinstallIfPkgs db pkg (name0 :: names) = rinstallIfPkgs db pkg names := by
        simp only [rinstallIfPkgs, List.filterMap_cons, installed, Option.filter_none]
      rw [skip, ← ih]
      simp only [printInfoRinstallIfLoop, installed]
    | some pkg0 =>
      by_cases installIf : pkg0.installIf.any fun d => db.depName d == pkg.name
      · have keep : rinstallIfPkgs db pkg (name0 :: names) =
            pkg0 :: rinstallIfPkgs db pkg names := by
          simp only [rinstallIfPkgs, List.filterMap_cons, installed, Option.filter, installIf,
            if_true]
        rw [keep]
        cases printedHeader <;> simp [printInfoRinstallIfLoop, installed, installIf, ih]
      · have skip : rinstallIfPkgs db pkg (name0 :: names) = rinstallIfPkgs db pkg names := by
          simp only [rinstallIfPkgs, List.filterMap_cons, installed, Option.filter, installIf,
            Bool.false_eq_true, if_false]
        rw [skip, ← ih]
        simp [printInfoRinstallIfLoop, installed, installIf]

theorem print_info_rinstall_if_header (field : InfoField) (pkg : Pkg δ) :
    printInfoRinstallIf db field pkg =
      (if (rinstallIfPkgs db pkg (db.rinstallIf pkg.name)).isEmpty then []
        else [field.fieldName ++ ":\n"]) ++
        (rinstallIfPkgs db pkg (db.rinstallIf pkg.name)).map fun pkg0 =>
          "  " ++ pkgVer pkg0 ++ "\n" := by
  unfold printInfoRinstallIf
  split
  · rename_i empty
    simp [List.isEmpty_iff.mp empty, rinstallIfPkgs]
  · rw [printInfoRinstallIfLoop_eq, Bool.false_or]

theorem print_info_repository_tags (field : InfoField) (pkg : Pkg δ) (i j allowed : Nat)
    (url tag : String) (repo : db.repos[i]? = some url)
    (tagged : db.repoTags[j]? = some (tag, allowed)) (holds : pkg.repos.testBit i)
    (some_repo : allowed &&& pkg.repos ≠ 0) :
    "  " ++ tag ++ (if j = 0 then "" else " ") ++ url ++ "\n" ∈
      printInfoRepository db field pkg := by
  have in_repo : bit i &&& pkg.repos ≠ 0 := by
    simp [bit, Nat.two_pow_and, holds, (Nat.two_pow_pos i).ne']
  simp only [printInfoRepository, List.mem_append, List.mem_flatten, List.mem_map]
  refine .inr ⟨_, ⟨(i, url), List.mem_enum_iff_getElem?.mpr repo, rfl⟩, ?_⟩
  rw [if_neg in_repo]
  refine List.mem_flatten.mpr ⟨_, List.mem_map.mpr
    ⟨(j, tag, allowed), List.mem_enum_iff_getElem?.mpr tagged, rfl⟩, ?_⟩
  simp [some_repo]

end

end ApkTools.Info
