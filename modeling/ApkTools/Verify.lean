import Mathlib

/-! verify.c: `verify_main`, the `verify` applet, which checks the signatures of package
files one by one. What checking a file gives (`apk_tar_parse` over the gunzipped file, with
the signing context's callbacks) is given per file.

* `verify_main_counts`: `verify_main` returns the number of files whose control or data part
  was not verified, whatever `apk_tar_parse` returned for them; when verbose it prints one
  message per file, and when quiet the names of exactly the files it counted. -/
namespace ApkTools.Verify

/-- What checking one file gives: what `apk_tar_parse` returned, and `control_verified`
and `data_verified` of the signing context after. -/
structure Verified where
  r : Int
  controlVerified : Bool
  dataVerified : Bool
  deriving DecidableEq, Repr

/-- `sctx.control_verified && sctx.data_verified`. -/
def Verified.ok (v : Verified) : Bool := v.controlVerified && v.dataVerified

/-- The message `apk_message("%s: %d - %s", ...)` of a file, given `apk_error_str`. -/
def verifyMessage (apkErrorStr : Int → String) (arg : String) (v : Verified) : String :=
  arg ++ ": " ++ toString v.r ++ " - " ++
    if v.r < 0 then apkErrorStr v.r
    else if v.ok then "OK"
    else if !v.controlVerified then "UNTRUSTED"
    else "FAILED"

/-- What `verify_main` has done so far: `rc`, the messages, and what it printed to standard
output. -/
structure VerifyRun where
  rc : Int
  messages : List String
  stdout : List String

section
variable (apkVerbosity : Int) (apkErrorStr : Int → String) (verify : String → Verified)

/-- One turn of the loop of `verify_main`, on the file `arg`. -/
def verifyFile (run : VerifyRun) (arg : String) : VerifyRun :=
  let v := verify arg
  let run : VerifyRun :=
    if apkVerbosity ≥ 1 then ⟨run.rc, run.messages ++ [verifyMessage apkErrorStr arg v], run.stdout⟩
    else if !v.ok then ⟨run.rc, run.messages, run.stdout ++ [arg ++ "\n"]⟩
    else run
  if !v.ok then ⟨run.rc + 1, run.messages, run.stdout⟩ else run

/-- `verify_main(ctx, db, args)`: the run, whose `rc` it returns. -/
def verifyMain (args : List String) : VerifyRun :=
  args.foldl (verifyFile apkVerbosity apkErrorStr verify) ⟨0, [], []⟩

/-- The files `verify_main` counts: those not verified in both parts. -/
def unverified (args : List String) : List String :=
  args.filter fun arg => !(verify arg).ok

theorem foldl_verifyFile (args : List String) (run : VerifyRun) :
    (args.foldl (verifyFile apkVerbosity apkErrorStr verify) run).rc =
        run.rc + (unverified verify args).length ∧
      (args.foldl (verifyFile apkVerbosity apkErrorStr verify) run).messages = run.messages ++
        (if apkVerbosity ≥ 1 then args.map fun arg => verifyMessage apkErrorStr arg (verify arg)
          else []) ∧
      (args.foldl (verifyFile apkVerbosity apkErrorStr verify) run).stdout = run.stdout ++
        (if apkVerbosity ≥ 1 then [] else (unverified verify args).map (· ++ "\n")) := by
  induction args generalizing run with
  | nil => simp [unverified]
  | cons arg args ih =>
    rw [List.foldl_cons, (ih _).1, (ih _).2.1, (ih _).2.2]
    by_cases verbose : apkVerbosity ≥ 1 <;> cases ok : (verify arg).ok <;>
      simp [verifyFile, unverified, verbose, ok, List.filter_cons] <;> omega

/-- `verify_main` returns the number of files whose control or data part was not verified;
what `apk_tar_parse` returned does not count, so a file on which it failed counts only
through the flags. When verbose it prints one message per file; when quiet, the names of
the files it counted. -/
theorem verify_main_counts (args : List String) :
    (verifyMain apkVerbosity apkErrorStr verify args).rc =
        (args.filter fun arg => !((verify arg).controlVerified && (verify arg).dataVerified)).length ∧
      (1 ≤ apkVerbosity →
        (verifyMain apkVerbosity apkErrorStr verify args).messages =
          args.map (fun arg => verifyMessage apkErrorStr arg (verify arg)) ∧
        (verifyMain apkVerbosity apkErrorStr verify args).stdout = []) ∧
      (apkVerbosity < 1 →
        (verifyMain apkVerbosity apkErrorStr verify args).messages = [] ∧
        (verifyMain apkVerbosity apkErrorStr verify args).stdout =
          (args.filter fun arg => !((verify arg).controlVerified && (verify arg).dataVerified)).map
            (· ++ "\n")) := by
  obtain ⟨rc, messages, stdout⟩ := foldl_verifyFile apkVerbosity apkErrorStr verify args ⟨0, [], []⟩
  simp only [unverified, Verified.ok] at rc stdout
  refine ⟨by simpa using rc, fun verbose => ?_, fun quiet => ?_⟩
  · simp [verifyMain, messages, stdout, verbose]
  · simp [verifyMain, messages, stdout, not_le.mpr quiet]

end

end ApkTools.Verify
