import ApkTools.Info.Fields

/-! The `info` applet of app_info.c: `option_parse_applet`, which each option of the
command line goes through, and `info_main` with the actions it dispatches to:
`info_exists` (`-e`), `info_who_owns` (`-W`), `info_contents` (`-L`), the fields of the
packages of given names, and the list of installed packages. What the applet reads from
outside app_info.c (how dependencies are pulled and checked, file owners, links, the names
an argument matches) is `AppletDb`.

* `info_options_run`: over any sequence of options, the action is the last option's (none
  if the last option sets none), `APK_OPENF_NO_REPOS` is set exactly when some option is
  `-e` or `-W`, and the subaction mask is all ones after `--all`, else the bits of the
  field options;
* `info_printed_fields`: the fields `info_subaction` prints after a command line are those
  of mask 0, all of them when `--all` or no field option is given, and otherwise those
  whose mask some option sets;
* `info_who_owns_accounts`: `-W` answers each argument by what its lookup found: with no
  owner, a `Could not find owner package` message and an error; with one, an `is owned by`
  line when verbose, or its name among those written at the end when quiet;
* `info_who_owns_symlink_lookup`: `-W` looks a symlink target up as the bytes of its buffer
  up to a NUL, and `readlinkat` does not write one, so a target shorter than the one before
  is looked up with the rest of the earlier target after it;
* `info_main_exit_code`: what `info_main` returns in each mode; with `-e`, the arguments
  whose dependency the first installed provider of its name does not satisfy, later
  installed providers never being looked at. -/
namespace ApkTools.Info

/-- `ENOTSUP` of Linux. -/
def enotsup : Int := 95

/-- The options of the applet, in the order of their enum. -/
inductive InfoOption
  | all | contents | depends | description | installIf | installed | license | maintainer
  | origin | provides | rdepends | replaces | rinstallIf | size | triggers | webpage | whoOwns
  deriving DecidableEq, Repr

/-- The actions the options set: `info_exists`, `info_who_owns` and `info_contents`. -/
inductive InfoAction
  | infoExists | infoWhoOwns | infoContents
  deriving DecidableEq, Repr

/-- `struct info_ctx` without its database. -/
structure InfoCtx where
  action : Option InfoAction
  subactionMask : Nat
  errors : Nat
  deriving DecidableEq, Repr

/-- `option_parse_applet(ctx, dbopts, opt, optarg)`, given `APK_OPENF_NO_REPOS` and
`dbopts->open_flags`: what it returns, the context after and the open flags after. `none`
is a number outside the enum. -/
def optionParseApplet (apkOpenfNoRepos : Nat) (ctx : InfoCtx) (openFlags : Nat)
    (opt : Option InfoOption) : Int × InfoCtx × Nat :=
  let ctx := { ctx with action := none }
  let orMask (bit : Nat) := (0, { ctx with subactionMask := ctx.subactionMask ||| bit }, openFlags)
  match opt with
  | some .installed =>
    (0, { ctx with action := some .infoExists }, openFlags ||| apkOpenfNoRepos)
  | some .whoOwns =>
    (0, { ctx with action := some .infoWhoOwns }, openFlags ||| apkOpenfNoRepos)
  | some .webpage => orMask apkInfoUrl
  | some .depends => orMask apkInfoDepends
  | some .provides => orMask apkInfoProvides
  | some .rdepends => orMask apkInfoRdepends
  | some .installIf => orMask apkInfoInstallIf
  | some .rinstallIf => orMask apkInfoRinstallIf
  | some .size => orMask apkInfoSize
  | some .description => orMask apkInfoDesc
  | some .contents => (0, { ctx with action := some .infoContents }, openFlags)
  | some .triggers => orMask apkInfoTriggers
  | some .replaces => orMask apkInfoReplaces
  | some .license => orMask apkInfoLicense
  | some .maintainer => orMask apkInfoMaintainer
  | some .origin => orMask apkInfoOrigin
  | some .all => (0, { ctx with subactionMask := 0xffffffff }, openFlags)
  | none => (-enotsup, ctx, openFlags)

/-- The options of a command line, each handed to `option_parse_applet` in turn: the
context and the open flags after them. -/
def parseOptions (apkOpenfNoRepos : Nat) : InfoCtx × Nat → List InfoOption → InfoCtx × Nat
  | state, [] => state
  | (ctx, openFlags), opt :: opts =>
    parseOptions apkOpenfNoRepos (optionParseApplet apkOpenfNoRepos ctx openFlags (some opt)).2
      opts

/-- The first lines of `info_main`: a subaction mask of 0 becomes all ones. -/
def InfoCtx.defaulted (ctx : InfoCtx) : InfoCtx :=
  if ctx.subactionMask = 0 then { ctx with subactionMask := 0xffffffff } else ctx

@[simp] theorem InfoCtx.defaulted_subactionMask (ctx : InfoCtx) :
    ctx.defaulted.subactionMask =
      if ctx.subactionMask = 0 then 0xffffffff else ctx.subactionMask := by
  unfold InfoCtx.defaulted
  split_ifs <;> rfl

@[simp] theorem InfoCtx.defaulted_action (ctx : InfoCtx) : ctx.defaulted.action = ctx.action := by
  unfold InfoCtx.defaulted
  split_ifs <;> rfl

@[simp] theorem InfoCtx.defaulted_errors (ctx : InfoCtx) : ctx.defaulted.errors = ctx.errors := by
  unfold InfoCtx.defaulted
  split_ifs <;> rfl

/-- What `info_main` has done so far: `ctx->errors`, the pieces written to standard output,
and the error messages. -/
structure InfoRun where
  errors : Nat
  stdout : List String
  stderr : List String

/-- What the applet reads beyond the printers' `InfoDb`. -/
structure AppletDb (δ : Type) extends InfoDb δ where
  /-- `apk_blob_pull_dep` of an argument: the dependency, or `none` when the pull failed,
  left text behind, or gave a dependency with no name. -/
  pullDep : String → Option δ
  /-- The packages of `name->providers` for the name of a dependency. -/
  providers : δ → List (Pkg δ)
  /-- `apk_dep_is_provided(&dep, p)`, with `none` for `NULL`. -/
  isProvided : δ → Option (Pkg δ) → Bool
  /-- `realpath` of a path, `none` when it fails. -/
  realpath : String → Option String
  /-- `apk_db_get_file_owner`. -/
  getFileOwner : String → Option (Pkg δ)
  /-- The target of a link, as `readlinkat(db->root_fd, path, ...)` reads it, `none` when it
  fails; a byte per character. -/
  readlinkat : String → Option String
  /-- What `apk_deps_add`, `apk_deps_write` and the newline after write for the names of
  the owners collected. -/
  writeOwners : List String → String
  /-- `apk_name_foreach_matching` of the arguments: the providers of each name it visits,
  or `none` for the `NULL` name of an argument that matches nothing. -/
  foreachMatching : List String → List (Option (List (Pkg δ)))
  /-- The packages of `db->installed.packages`. -/
  installedPackages : List (Pkg δ)

/-- `PATH_MAX`. -/
def pathMax : Nat := 4096

/-- `APK_BLOB_STR(buf)`: the bytes of a buffer up to its first NUL. -/
def blobStr (buf : List Char) : String := String.mk (buf.takeWhile (· ≠ '\x00'))

section
variable {δ : Type} (db : AppletDb δ) (apkVerbosity : Int)

/-- `verbose_print_pkg(pkg, minimal_verbosity)`: the name at a verbosity of at least 1,
raised to `minimal_verbosity`; the version and description by `apk_verbosity` alone. -/
def verbosePrintPkg (pkg : Option (Pkg δ)) (minimalVerbosity : Int) : List String :=
  let verbosity := max apkVerbosity minimalVerbosity
  match pkg with
  | none => []
  | some pkg =>
    if verbosity < 1 then []
    else [pkg.name] ++ (if apkVerbosity > 1 then ["-" ++ pkg.version.getD ""] else []) ++
      (if apkVerbosity > 2 then [" - " ++ pkg.description.getD "(null)"] else []) ++ ["\n"]

/-- The loop of `info_exists` over the providers of a dependency's name, from `ok`: the
first installed provider decides, and the loop breaks there. -/
def infoExistsProviders (dep : δ) (ok : Bool) : List (Pkg δ) → Bool × List String
  | [] => (ok, [])
  | p :: ps =>
    if p.ipkg.isNone then infoExistsProviders dep ok ps
    else
      let ok := db.isProvided dep (some p)
      (ok, if ok then verbosePrintPkg apkVerbosity (some p) 0 else [])

/-- `info_exists(ctx, db, args)`. -/
def infoExists (run : InfoRun) : List String → InfoRun
  | [] => run
  | arg :: args =>
    match db.pullDep arg with
    | none => infoExists run args
    | some dep =>
      let (ok, out) := infoExistsProviders db apkVerbosity dep (db.isProvided dep none)
        (db.providers dep)
      infoExists ⟨run.errors + (if ok then 0 else 1), run.stdout ++ out, run.stderr⟩ args

/-- The state of the loop of `info_who_owns`: the run so far, the bytes of `buf`, and the
names of the owners collected in `deps`. -/
structure WhoOwns where
  run : InfoRun
  buf : List Char
  owners : List String

/-- How `info_who_owns` looks an argument up under the name `fn`: its owner, the text `via`,
and the bytes of `buf` after. When `fn` has no owner, a link is read into `buf` and its
target looked up as `APK_BLOB_STR(buf)`. -/
def whoOwnsLookup (buf : List Char) (arg fn : String) : Option (Pkg δ) × String × List Char :=
  match db.getFileOwner fn with
  | some pkg => (some pkg, "", buf)
  | none =>
    match db.readlinkat arg with
    | none => (none, "", buf)
    | some target =>
      let r := min target.length pathMax
      let buf := target.toList.take pathMax ++ buf.drop r
      if 0 < r ∧ r < pathMax ∧ buf.head? = some '/' then
        (db.getFileOwner (blobStr buf), "symlink target ", buf)
      else (none, "", buf)

/-- The name `info_who_owns` looks an argument up under: its `realpath` when it does not
start with `/` and `realpath` succeeds, else the argument itself. -/
def whoOwnsName (arg : String) : String :=
  if arg.toList.head? ≠ some '/' then (db.realpath arg).getD arg else arg

/-- One turn of the loop of `info_who_owns`. -/
def infoWhoOwnsArg (s : WhoOwns) (arg : String) : WhoOwns :=
  match whoOwnsLookup db s.buf arg (whoOwnsName db arg) with
  | (none, _, buf) =>
    ⟨⟨s.run.errors + 1, s.run.stdout,
      s.run.stderr ++ [whoOwnsName db arg ++ ": Could not find owner package"]⟩, buf, s.owners⟩
  | (some pkg, via, buf) =>
    if apkVerbosity < 1 then ⟨s.run, buf, s.owners ++ [pkg.name]⟩
    else ⟨{ s.run with stdout := s.run.stdout ++
      [whoOwnsName db arg ++ " " ++ via ++ "is owned by " ++ pkgVer pkg ++ "\n"] }, buf, s.owners⟩

/-- What the loop of `info_who_owns` found for an argument: its owner, if any, and the
text `via`. -/
structure Found (δ : Type) where
  arg : String
  owner : Option (Pkg δ)
  via : String

/-- The lookups of the loop of `info_who_owns` from the bytes `buf` on, each leaving `buf`
to the next. -/
def whoOwnsFound (buf : List Char) : List String → List (Found δ)
  | [] => []
  | arg :: args =>
    match whoOwnsLookup db buf arg (whoOwnsName db arg) with
    | (owner, via, buf) => ⟨arg, owner, via⟩ :: whoOwnsFound buf args

/-- `info_who_owns(ctx, db, args)`, with `buf` holding the bytes `buf0` on entry; when quiet,
the names of the owners are written at the end. -/
def infoWhoOwns (buf0 : List Char) (run : InfoRun) (args : List String) : InfoRun :=
  let s := args.foldl (infoWhoOwnsArg db apkVerbosity) ⟨run, buf0, []⟩
  if apkVerbosity < 1 ∧ s.owners ≠ [] then
    { s.run with stdout := s.run.stdout ++ [db.writeOwners s.owners] }
  else s.run

/-- `info_contents`: an error message, and no error counted. -/
def infoContents (run : InfoRun) : InfoRun :=
  { run with stderr := run.stderr ++ ["apk info -L has been replaced with apk manifest"] }

/-- `print_name_info` for each name `apk_name_foreach_matching` visits. -/
def printNameInfo (subactionMask : Nat) (run : InfoRun) : List (Option (List (Pkg δ))) → InfoRun
  | [] => run
  | none :: names => printNameInfo subactionMask { run with errors := run.errors + 1 } names
  | some providers :: names =>
    printNameInfo subactionMask { run with stdout := run.stdout ++
      (providers.map fun pkg => infoSubaction db.toInfoDb subactionMask pkg).flatten } names

/-- `info_main(ctx, db, args)`: the run, whose `errors` it returns; `buf0` is what the stack
holds where `info_who_owns` puts its buffer. -/
def infoMain (buf0 : List Char) (ctx : InfoCtx) (args : List String) : InfoRun :=
  let ctx := ctx.defaulted
  let run : InfoRun := ⟨ctx.errors, [], []⟩
  match ctx.action with
  | some .infoExists => infoExists db apkVerbosity run args
  | some .infoWhoOwns => infoWhoOwns db apkVerbosity buf0 run args
  | some .infoContents => infoContents run
  | none =>
    if !args.isEmpty then printNameInfo db ctx.subactionMask run (db.foreachMatching args)
    else { run with stdout := (db.installedPackages.map fun pkg =>
      verbosePrintPkg apkVerbosity (some pkg) 1).flatten }

end

/-! ## Options over a whole command line -/

/-- The action an option leaves set: `option_parse_applet` clears the action first. -/
def InfoOption.action? : InfoOption → Option InfoAction
  | .installed => some .infoExists
  | .whoOwns => some .infoWhoOwns
  | .contents => some .infoContents
  | _ => none

/-- The bit an option ORs into the subaction mask, 0 for the options that OR none. -/
def InfoOption.subactionBit : InfoOption → Nat
  | .webpage => apkInfoUrl
  | .depends => apkInfoDepends
  | .provides => apkInfoProvides
  | .rdepends => apkInfoRdepends
  | .installIf => apkInfoInstallIf
  | .rinstallIf => apkInfoRinstallIf
  | .size => apkInfoSize
  | .description => apkInfoDesc
  | .triggers => apkInfoTriggers
  | .replaces => apkInfoReplaces
  | .license => apkInfoLicense
  | .maintainer => apkInfoMaintainer
  | .origin => apkInfoOrigin
  | _ => 0

/-- Whether an option sets `APK_OPENF_NO_REPOS`. -/
def InfoOption.noRepos : InfoOption → Bool
  | .installed | .whoOwns => true
  | _ => false

/-- The bits a sequence of options ORs into the subaction mask. -/
def orBits : List InfoOption → Nat
  | [] => 0
  | opt :: opts => opt.subactionBit ||| orBits opts

/-- What `option_parse_applet` does with an option of the enum. -/
theorem optionParseApplet_some (apkOpenfNoRepos : Nat) (ctx : InfoCtx) (openFlags : Nat)
    (opt : InfoOption) :
    optionParseApplet apkOpenfNoRepos ctx openFlags (some opt) =
      (0, ⟨opt.action?, if opt = .all then 0xffffffff else ctx.subactionMask ||| opt.subactionBit,
        ctx.errors⟩, if opt.noRepos then openFlags ||| apkOpenfNoRepos else openFlags) := by
  cases opt <;>
    simp [optionParseApplet, InfoOption.action?, InfoOption.subactionBit, InfoOption.noRepos]

theorem parseOptions_cons (apkOpenfNoRepos : Nat) (ctx : InfoCtx) (openFlags : Nat)
    (opt : InfoOption) (opts : List InfoOption) :
    parseOptions apkOpenfNoRepos (ctx, openFlags) (opt :: opts) =
      parseOptions apkOpenfNoRepos (⟨opt.action?,
        if opt = .all then 0xffffffff else ctx.subactionMask ||| opt.subactionBit, ctx.errors⟩,
        if opt.noRepos then openFlags ||| apkOpenfNoRepos else openFlags) opts := by
  rw [parseOptions, optionParseApplet_some]

theorem subactionBit_cases (opt : InfoOption) :
    opt.subactionBit = 0 ∨ ∃ k < 15, opt.subactionBit = bit k := by
  cases opt <;> decide

theorem subactionBit_testBit (opt : InfoOption) (k : Nat) :
    opt.subactionBit.testBit k = true ↔ opt.subactionBit = bit k := by
  rcases subactionBit_cases opt with zero | ⟨j, -, hj⟩
  · simp [zero, bit, (Nat.two_pow_pos k).ne]
  · simp [hj, bit, Nat.testBit_two_pow, (Nat.pow_right_injective (le_refl 2)).eq_iff]

theorem full_lor_subactionBit (opt : InfoOption) : 0xffffffff ||| opt.subactionBit = 0xffffffff := by
  cases opt <;> decide

theorem full_lor_orBits (opts : List InfoOption) : 0xffffffff ||| orBits opts = 0xffffffff := by
  induction opts with
  | nil => rfl
  | cons opt opts ih => rw [orBits, ← Nat.lor_assoc, full_lor_subactionBit, ih]

theorem testBit_orBits (opts : List InfoOption) (k : Nat) :
    (orBits opts).testBit k = true ↔ ∃ opt ∈ opts, opt.subactionBit = bit k := by
  induction opts with
  | nil => simp [orBits]
  | cons opt opts ih => simp [orBits, Nat.testBit_lor, ih, subactionBit_testBit]

theorem orBits_eq_zero (opts : List InfoOption) :
    orBits opts = 0 ↔ ∀ opt ∈ opts, opt.subactionBit = 0 := by
  induction opts with
  | nil => simp [orBits]
  | cons opt opts ih =>
    rcases subactionBit_cases opt with zero | ⟨k, -, hk⟩
    · simp [orBits, zero, ih]
    · have set : (orBits (opt :: opts)).testBit k = true :=
        (testBit_orBits _ k).mpr ⟨opt, List.mem_cons_self _ _, hk⟩
      have ne : opt.subactionBit ≠ 0 := by simp [hk, bit]
      constructor
      · intro zero
        simp [zero] at set
      · intro zero
        exact absurd (zero opt (List.mem_cons_self _ _)) ne

section
variable (apkOpenfNoRepos : Nat)

theorem parseOptions_action (ctx : InfoCtx) (openFlags : Nat) (opts : List InfoOption) :
    (parseOptions apkOpenfNoRepos (ctx, openFlags) opts).1.action =
      (opts.getLast?.map InfoOption.action?).getD ctx.action := by
  induction opts generalizing ctx openFlags with
  | nil => rfl
  | cons opt opts ih =>
    rw [parseOptions_cons, ih, List.getLast?_cons]
    cases opts.getLast? <;> rfl

theorem parseOptions_flags (ctx : InfoCtx) (openFlags : Nat) (opts : List InfoOption) :
    (parseOptions apkOpenfNoRepos (ctx, openFlags) opts).2 =
      if opts.any InfoOption.noRepos then openFlags ||| apkOpenfNoRepos else openFlags := by
  induction opts generalizing ctx openFlags with
  | nil => rfl
  | cons opt opts ih =>
    rw [parseOptions_cons, ih, List.any_cons]
    cases opt.noRepos <;> cases opts.any InfoOption.noRepos <;> simp [Nat.lor_assoc]

theorem parseOptions_mask (ctx : InfoCtx) (openFlags : Nat) (opts : List InfoOption) :
    (parseOptions apkOpenfNoRepos (ctx, openFlags) opts).1.subactionMask =
      if InfoOption.all ∈ opts then 0xffffffff else ctx.subactionMask ||| orBits opts := by
  induction opts generalizing ctx openFlags with
  | nil => simp [parseOptions, orBits]
  | cons opt opts ih =>
    rw [parseOptions_cons, ih]
    by_cases later : InfoOption.all ∈ opts
    · simp [later]
    · by_cases first : opt = .all
      · simp [first, later, full_lor_orBits]
      · simp [first, later, Ne.symm first, orBits, Nat.lor_assoc]

theorem parseOptions_errors (ctx : InfoCtx) (openFlags : Nat) (opts : List InfoOption) :
    (parseOptions apkOpenfNoRepos (ctx, openFlags) opts).1.errors = ctx.errors := by
  induction opts generalizing ctx openFlags with
  | nil => rfl
  | cons opt opts ih => rw [parseOptions_cons, ih]

/-- The subaction mask `info_main` works with after a command line, bit by bit. -/
theorem defaulted_mask_testBit (openFlags : Nat) (opts : List InfoOption) {k : Nat}
    (hk : k < 32) :
    (parseOptions apkOpenfNoRepos (⟨none, 0, 0⟩, openFlags) opts).1.defaulted.subactionMask.testBit
        k = true ↔
      InfoOption.all ∈ opts ∨ (∀ opt ∈ opts, opt.subactionBit = 0) ∨
        ∃ opt ∈ opts, opt.subactionBit = bit k := by
  have full : (0xffffffff : Nat).testBit k = true := by
    rw [show (0xffffffff : Nat) = 2 ^ 32 - 1 by rfl, Nat.testBit_two_pow_sub_one]
    simpa using hk
  rw [InfoCtx.defaulted_subactionMask, parseOptions_mask]
  by_cases all : InfoOption.all ∈ opts
  · simp [all, full]
  · by_cases none : orBits opts = 0
    · simp only [all, none, full, if_false, if_true, Nat.zero_or, false_or, true_iff]
      exact .inl ((orBits_eq_zero opts).mp none)
    · have some : ¬ ∀ opt ∈ opts, opt.subactionBit = 0 := fun h => none ((orBits_eq_zero _).mpr h)
      simp [all, none, some, testBit_orBits]

end

theorem infoFields_masks :
    ∀ field ∈ infoFields, field.fieldMask = 0 ∨ ∃ k < 15, field.fieldMask = bit k := by
  decide

/-- Over any command line, `option_parse_applet` leaves the action of the last option (none
when the last option sets none), sets `APK_OPENF_NO_REPOS` exactly when some option is `-e`
or `-W`, leaves a subaction mask of all ones after `--all` and otherwise ORs in the bits of
the field options, and counts no error. -/
theorem info_options_run (apkOpenfNoRepos : Nat) (ctx : InfoCtx) (openFlags : Nat)
    (opts : List InfoOption) :
    (parseOptions apkOpenfNoRepos (ctx, openFlags) opts).1.action =
        (opts.getLast?.map InfoOption.action?).getD ctx.action ∧
      (parseOptions apkOpenfNoRepos (ctx, openFlags) opts).2 =
        (if opts.any InfoOption.noRepos then openFlags ||| apkOpenfNoRepos else openFlags) ∧
      (parseOptions apkOpenfNoRepos (ctx, openFlags) opts).1.subactionMask =
        (if InfoOption.all ∈ opts then 0xffffffff else ctx.subactionMask ||| orBits opts) ∧
      (parseOptions apkOpenfNoRepos (ctx, openFlags) opts).1.errors = ctx.errors :=
  ⟨parseOptions_action _ _ _ _, parseOptions_flags _ _ _ _, parseOptions_mask _ _ _ _,
    parseOptions_errors _ _ _ _⟩

/-- The fields `info_subaction` prints after a command line, from the zeroed context. -/
theorem info_printed_fields (apkOpenfNoRepos openFlags : Nat) (opts : List InfoOption) :
    infoPrinted
        (parseOptions apkOpenfNoRepos (⟨none, 0, 0⟩, openFlags) opts).1.defaulted.subactionMask =
      infoFields.filter fun field => field.fieldMask = 0 ∨ InfoOption.all ∈ opts ∨
        (∀ opt ∈ opts, opt.subactionBit = 0) ∨ ∃ opt ∈ opts, opt.subactionBit = field.fieldMask := by
  apply List.filter_congr
  intro field mem
  rcases infoFields_masks field mem with zero | ⟨k, hk, mask⟩
  · simp [zero]
  · have ne : bit k ≠ 0 := by simp [bit]
    rw [Bool.eq_iff_iff]
    simp only [mask, beq_iff_eq, decide_eq_true_eq, bit_covered, ne, false_or,
      defaulted_mask_testBit _ _ _ (by omega : k < 32)]

/-! ## The actions -/

section
variable {δ : Type} (db : AppletDb δ) (apkVerbosity : Int)

/-- Whether `info_exists` counts a dependency as present: the first installed provider of
its name satisfies it, or, with none installed, it is satisfied by nothing. -/
def existsOk (dep : δ) : Bool :=
  match (db.providers dep).find? fun p => p.ipkg.isSome with
  | none => db.isProvided dep none
  | some p => db.isProvided dep (some p)

theorem infoExistsProviders_ok (dep : δ) (ok : Bool) (ps : List (Pkg δ)) :
    (infoExistsProviders db apkVerbosity dep ok ps).1 =
      match ps.find? fun p => p.ipkg.isSome with
      | none => ok
      | some p => db.isProvided dep (some p) := by
  induction ps with
  | nil => rfl
  | cons p ps ih =>
    cases installed : p.ipkg
    · simp [infoExistsProviders, installed, ih, List.find?_cons]
    · simp [infoExistsProviders, installed, List.find?_cons]

theorem infoExistsProviders_existsOk (dep : δ) :
    (infoExistsProviders db apkVerbosity dep (db.isProvided dep none) (db.providers dep)).1 =
      existsOk db dep := by
  rw [infoExistsProviders_ok]
  rfl

theorem infoExists_run (run : InfoRun) (args : List String) :
    (infoExists db apkVerbosity run args).errors = run.errors +
        (args.filter fun arg => (db.pullDep arg).any fun dep => !existsOk db dep).length ∧
      (infoExists db apkVerbosity run args).stderr = run.stderr := by
  induction args generalizing run with
  | nil => simp [infoExists]
  | cons arg args ih =>
    cases pulled : db.pullDep arg with
    | none => simp [infoExists, pulled, ih, List.filter_cons]
    | some dep =>
      simp only [infoExists, pulled]
      rw [(ih _).1, (ih _).2, infoExistsProviders_existsOk]
      cases ok : existsOk db dep
      · simp [List.filter_cons, pulled, ok]
        omega
      · simp [List.filter_cons, pulled, ok]

theorem whoOwnsFound_args (buf : List Char) (args : List String) :
    (whoOwnsFound db buf args).map Found.arg = args := by
  induction args generalizing buf with
  | nil => rfl
  | cons arg args ih => simp only [whoOwnsFound, List.map_cons, ih]

/-- The loop of `info_who_owns` answers each argument by what its lookup found: an error
message and an error without an owner; with one, a line when verbose and its name collected
when quiet. -/
theorem foldl_infoWhoOwnsArg (args : List String) (s : WhoOwns) :
    (args.foldl (infoWhoOwnsArg db apkVerbosity) s).run.stderr = s.run.stderr ++
        ((whoOwnsFound db s.buf args).filter fun f => f.owner.isNone).map
          (fun f => whoOwnsName db f.arg ++ ": Could not find owner package") ∧
      (args.foldl (infoWhoOwnsArg db apkVerbosity) s).run.errors =
        s.run.errors + ((whoOwnsFound db s.buf args).filter fun f => f.owner.isNone).length ∧
      (args.foldl (infoWhoOwnsArg db apkVerbosity) s).run.stdout = s.run.stdout ++
        (if apkVerbosity < 1 then [] else (whoOwnsFound db s.buf args).filterMap (fun f =>
          f.owner.map fun pkg =>
            whoOwnsName db f.arg ++ " " ++ f.via ++ "is owned by " ++ pkgVer pkg ++ "\n")) ∧
      (args.foldl (infoWhoOwnsArg db apkVerbosity) s).owners = s.owners ++
        (if apkVerbosity < 1 then (whoOwnsFound db s.buf args).filterMap fun f =>
          f.owner.map Pkg.name else []) := by
  induction args generalizing s with
  | nil => simp [whoOwnsFound]
  | cons arg args ih =>
    rw [List.foldl_cons]
    obtain ⟨err, count, out, owners⟩ := ih (infoWhoOwnsArg db apkVerbosity s arg)
    rw [err, count, out, owners]
    rcases lookup : whoOwnsLookup db s.buf arg (whoOwnsName db arg) with ⟨owner, via, buf⟩
    have found : whoOwnsFound db s.buf (arg :: args) =
        ⟨arg, owner, via⟩ :: whoOwnsFound db buf args := by
      rw [whoOwnsFound, lookup]
    rw [found]
    cases owner with
    | none =>
      simp only [infoWhoOwnsArg, lookup, List.filter_cons, Option.isNone_none, if_true,
        List.map_cons, List.length_cons, List.filterMap_cons, Option.map_none', List.append_assoc,
        List.singleton_append, true_and, and_true]
      omega
    | some pkg =>
      by_cases quiet : apkVerbosity < 1 <;>
        simp [infoWhoOwnsArg, lookup, quiet, List.filter_cons, List.filterMap_cons]

/-- `info_who_owns` answers each argument, in order, by what its lookup found: with no
owner, the message `<name>: Could not find owner package` and an error; with an owner, the
line `<name> <via>is owned by <pkg>` when verbose, or, when quiet, the owner's name among
those written at the end. -/
theorem info_who_owns_accounts (buf0 : List Char) (run : InfoRun) (args : List String) :
    (whoOwnsFound db buf0 args).map Found.arg = args ∧
      (infoWhoOwns db apkVerbosity buf0 run args).stderr = run.stderr ++
        ((whoOwnsFound db buf0 args).filter fun f => f.owner.isNone).map
          (fun f => whoOwnsName db f.arg ++ ": Could not find owner package") ∧
      (infoWhoOwns db apkVerbosity buf0 run args).errors =
        run.errors + ((whoOwnsFound db buf0 args).filter fun f => f.owner.isNone).length ∧
      (1 ≤ apkVerbosity → (infoWhoOwns db apkVerbosity buf0 run args).stdout = run.stdout ++
        (whoOwnsFound db buf0 args).filterMap (fun f => f.owner.map fun pkg =>
          whoOwnsName db f.arg ++ " " ++ f.via ++ "is owned by " ++ pkgVer pkg ++ "\n")) ∧
      (apkVerbosity < 1 → (infoWhoOwns db apkVerbosity buf0 run args).stdout = run.stdout ++
        if ((whoOwnsFound db buf0 args).filterMap fun f => f.owner.map Pkg.name) = [] then []
        else [db.writeOwners ((whoOwnsFound db buf0 args).filterMap fun f => f.owner.map Pkg.name)]) := by
  obtain ⟨err, count, out, owners⟩ :=
    foldl_infoWhoOwnsArg db apkVerbosity args ⟨run, buf0, []⟩
  refine ⟨whoOwnsFound_args db buf0 args, ?_, ?_, fun verbose => ?_, fun quiet => ?_⟩ <;>
    simp only [infoWhoOwns]
  · split_ifs <;> exact err
  · split_ifs <;> exact count
  · rw [if_neg fun h => absurd h.1 (not_lt.mpr verbose), out, if_neg (not_lt.mpr verbose)]
  · simp only [owners, quiet, if_true, List.nil_append] at out ⊢
    split_ifs <;> simp_all

/-- How `info_who_owns` looks a link up when the name it was given has no owner: it reads the
target into `buf` and looks up `APK_BLOB_STR(buf)`. `readlinkat` writes no NUL, so what is
looked up is the target followed by the bytes of `buf` after it, up to the first NUL: the
target alone only when a NUL follows it. -/
theorem info_who_owns_symlink_lookup (buf : List Char) (arg fn target : String)
    (unowned : db.getFileOwner fn = none) (link : db.readlinkat arg = some target)
    (absolute : target.toList.head? = some '/') (fits : target.length < pathMax)
    (no_nul : '\x00' ∉ target.toList) :
    (whoOwnsLookup db buf arg fn).1 =
      db.getFileOwner (String.mk (target.toList ++ (buf.drop target.length).takeWhile
        (· ≠ '\x00'))) := by
  obtain ⟨cs⟩ := target
  have length : String.length ⟨cs⟩ = cs.length := rfl
  have nonempty : 0 < cs.length := List.length_pos.mpr fun h => by simp [h] at absolute
  simp only [String.toList] at absolute no_nul
  rw [length] at fits ⊢
  have taken : cs.take pathMax = cs := List.take_of_length_le fits.le
  have within : min cs.length pathMax = cs.length := min_eq_left fits.le
  simp only [whoOwnsLookup, unowned, link, String.toList, length, within, taken]
  rw [if_pos ⟨nonempty, fits, by cases cs <;> simp_all⟩, blobStr,
    List.takeWhile_append_of_pos fun c mem => by
      simpa using fun h : c = '\x00' => no_nul (h ▸ mem)]

theorem infoWhoOwns_errors (buf0 : List Char) (run : InfoRun) (args : List String) :
    (infoWhoOwns db apkVerbosity buf0 run args).errors + run.stderr.length =
      run.errors + (infoWhoOwns db apkVerbosity buf0 run args).stderr.length := by
  obtain ⟨err, count, -⟩ := foldl_infoWhoOwnsArg db apkVerbosity args ⟨run, buf0, []⟩
  simp only [infoWhoOwns]
  split_ifs <;> simp only [err, count, List.length_append, List.length_map] <;> omega

theorem printNameInfo_run (subactionMask : Nat) (run : InfoRun)
    (names : List (Option (List (Pkg δ)))) :
    (printNameInfo db subactionMask run names).errors =
        run.errors + (names.filter Option.isNone).length ∧
      (printNameInfo db subactionMask run names).stdout = run.stdout ++
        ((names.filterMap id).flatten.map (infoSubaction db.toInfoDb subactionMask)).flatten ∧
      (printNameInfo db subactionMask run names).stderr = run.stderr := by
  induction names generalizing run with
  | nil => simp [printNameInfo]
  | cons name names ih =>
    cases name with
    | none =>
      simp [printNameInfo, ih]
      omega
    | some providers => simp [printNameInfo, ih]

/-- What `info_main` returns, its error count, in each of its modes: with `-e`, the number of
arguments whose dependency is not present (the first installed provider of the name
decides); with `-W`, the number of error messages; with `-L`, nothing counted, though an
error message is printed; for given names, the number of arguments that match no name, the
packages of the names matched being printed field by field; and with nothing to do, no
error. -/
theorem info_main_exit_code (buf0 : List Char) (ctx : InfoCtx) (args : List String) :
    (ctx.action = some .infoExists → (infoMain db apkVerbosity buf0 ctx args).errors =
        ctx.errors +
          (args.filter fun arg => (db.pullDep arg).any fun dep => !existsOk db dep).length) ∧
      (ctx.action = some .infoWhoOwns → (infoMain db apkVerbosity buf0 ctx args).errors =
        ctx.errors + (infoMain db apkVerbosity buf0 ctx args).stderr.length) ∧
      (ctx.action = some .infoContents →
        (infoMain db apkVerbosity buf0 ctx args).errors = ctx.errors ∧
          (infoMain db apkVerbosity buf0 ctx args).stderr =
            ["apk info -L has been replaced with apk manifest"]) ∧
      (ctx.action = none → args ≠ [] →
        (infoMain db apkVerbosity buf0 ctx args).errors =
            ctx.errors + ((db.foreachMatching args).filter Option.isNone).length ∧
          (infoMain db apkVerbosity buf0 ctx args).stdout =
            (((db.foreachMatching args).filterMap id).flatten.map
              (infoSubaction db.toInfoDb ctx.defaulted.subactionMask)).flatten) ∧
      (ctx.action = none → args = [] →
        (infoMain db apkVerbosity buf0 ctx args).errors = ctx.errors) := by
  refine ⟨fun existing => ?_, fun owns => ?_, fun contents => ?_, fun none given => ?_,
    fun none empty => ?_⟩
  · simp only [infoMain, InfoCtx.defaulted_action, existing, (infoExists_run _ _ _ _).1,
      InfoCtx.defaulted_errors]
  · have errors := infoWhoOwns_errors db apkVerbosity buf0 ⟨ctx.errors, [], []⟩ args
    simp only [List.length_nil, Nat.add_zero] at errors
    simp only [infoMain, InfoCtx.defaulted_action, owns, InfoCtx.defaulted_errors, errors]
  · simp [infoMain, contents, infoContents]
  · have nonempty : args.isEmpty = false := by simpa using given
    simp [infoMain, none, nonempty, printNameInfo_run]
  · simp [infoMain, none, empty]

end

end ApkTools.Info
