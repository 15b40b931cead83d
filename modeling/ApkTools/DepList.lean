import ApkTools.RoundTrip

/-! Dependency lists: `apk_dep_split`, the loop of `dependencies_fromstring` over it, and
the dependency array it appends to. The split is parametric in the separator class.

* `depTokens_spec`: the loop stops within `b.length + 2` calls and yields the maximal
  runs of non-separator bytes, after an empty token when `b` is empty or starts with a
  separator;
* `dependencies_fromstring_appends`: accepted tokens that fit are appended one object
  each, in order; a rejected token is appended as an empty object, and the result is 0
  all the same.
-/
namespace ApkTools

section
variable (isSep : Char → Bool)

/-- `apk_dep_split(&b, &bdep)` for the separator class `isSep`: `none` where it returns
0, else the token `bdep` and the new `b` (`none` for `APK_BLOB_NULL`). -/
def apkDepSplit : Option Blob → Option (Blob × Option Blob)
  | none => none
  | some b => some <|
    match apkBlobCspn isSep b with
    | some (bdep, rest) => (bdep, (apkBlobSpn isSep rest).map Prod.snd)
    | none => (b, none)

/-- The tokens of `while (apk_dep_split(&b, &bdep))`, when the loop stops within `fuel`
calls. -/
def depTokens : Nat → Option Blob → Option (List Blob)
  | 0, _ => none
  | fuel + 1, b =>
    match apkDepSplit isSep b with
    | none => some []
    | some (bdep, b) => (depTokens fuel b).map (bdep :: ·)

/-- The maximal non-empty runs of non-separator bytes of `b`. -/
def sepRuns (b : Blob) : List Blob := (b.splitOnP isSep).filter fun run => !run.isEmpty

variable {isSep}

theorem sepRuns_cons_sep {c : Char} (l : Blob) (h : isSep c = true) :
    sepRuns isSep (c :: l) = sepRuns isSep l := by
  simp [sepRuns, List.splitOnP_cons, h]

theorem sepRuns_seps {seps : Blob} (l : Blob) (h : ∀ c ∈ seps, isSep c = true) :
    sepRuns isSep (seps ++ l) = sepRuns isSep l := by
  induction seps with
  | nil => rfl
  | cons c cs ih =>
    simp only [List.mem_cons, forall_eq_or_imp] at h
    rw [List.cons_append, sepRuns_cons_sep _ h.1, ih h.2]

theorem sepRuns_plain {tok : Blob} (h : ∀ c ∈ tok, isSep c = false) :
    sepRuns isSep tok = if tok = [] then [] else [tok] := by
  rw [sepRuns, List.splitOnP_eq_single isSep tok (by simpa using h)]
  cases tok <;> simp

theorem sepRuns_run {tok : Blob} {s : Char} (rest : Blob) (h : ∀ c ∈ tok, isSep c = false)
    (hs : isSep s = true) :
    sepRuns isSep (tok ++ s :: rest) = (if tok = [] then [] else [tok]) ++ sepRuns isSep rest := by
  rw [sepRuns, List.splitOnP_first isSep tok (by simpa using h) s hs]
  cases tok <;> simp [sepRuns]

theorem depTokens_step {b : Option Blob} {bdep : Blob} {b' : Option Blob} (fuel : Nat)
    (h : apkDepSplit isSep b = some (bdep, b')) :
    depTokens isSep (fuel + 1) b = (depTokens isSep fuel b').map (bdep :: ·) := by
  simp [depTokens, h]

theorem apkDepSplit_last {b : Blob} (h : apkBlobCspn isSep b = none) :
    apkDepSplit isSep (some b) = some (b, none) := by
  simp [apkDepSplit, h]

theorem apkDepSplit_run {b tok rest : Blob} (h : apkBlobCspn isSep b = some (tok, rest)) :
    apkDepSplit isSep (some b) = some (tok, (apkBlobSpn isSep rest).map Prod.snd) := by
  simp [apkDepSplit, h]

/-- The split loop stops within `b.length + 2` calls, having yielded the runs of `b`,
after one empty token when `b` is empty or starts with a separator. -/
theorem depTokens_spec (b : Blob) (fuel : Nat) (enough : b.length + 2 ≤ fuel) :
    depTokens isSep fuel (some b) =
      some ((if b.head?.all isSep then [[]] else []) ++ sepRuns isSep b) := by
  induction' hn : b.length using Nat.strong_induction_on with n ih generalizing b fuel
  obtain ⟨fuel, rfl⟩ : ∃ f, fuel = f + 1 + 1 := ⟨fuel - 2, by omega⟩
  cases hcut : apkBlobCspn isSep b with
  | none =>
    have clean := blobBreak_eq_none_iff.mp hcut
    rw [depTokens_step _ (apkDepSplit_last hcut), sepRuns_plain clean]
    cases b with
    | nil => rfl
    | cons c cs => simp [depTokens, apkDepSplit, clean c (List.mem_cons_self c cs)]
  | some p =>
    obtain ⟨tok, rest⟩ := p
    obtain ⟨rfl, clean, s, r, rfl, hs⟩ := blobBreak_eq_some hcut
    have lead : (if (tok ++ s :: r).head?.all isSep then [[]] else []) ++
        (if tok = [] then [] else [tok]) = [tok] := by
      cases tok with
      | nil => simp [hs]
      | cons c cs => simp [clean c (List.mem_cons_self c cs)]
    rw [sepRuns_run r clean hs, ← List.append_assoc, lead]
    cases hspn : apkBlobSpn isSep (s :: r) with
    | none =>
      have seps : ∀ c ∈ r, isSep c = true := fun c h => by
        simpa using blobBreak_eq_none_iff.mp hspn c (List.mem_cons_of_mem s h)
      have none : sepRuns isSep r = [] := by simpa using sepRuns_seps (l := []) seps
      rw [depTokens_step _ (apkDepSplit_run hcut), hspn, none]
      rfl
    | some q =>
      obtain ⟨seps, r2⟩ := q
      obtain ⟨hsr, sepsClean, c, r2', rfl, hc⟩ := blobBreak_eq_some hspn
      have seps' : ∀ x ∈ seps, isSep x = true := by simpa using sepsClean
      have hc' : isSep c = false := by simpa using hc
      have shorter : (c :: r2').length < n := by
        cases seps with
        | nil => simp_all
        | cons => rw [← hn, List.length_append, hsr]; simp; omega
      have step := ih _ shorter (c :: r2') (fuel + 1) (by simp at shorter ⊢; omega) rfl
      rw [depTokens_step _ (apkDepSplit_run hcut), hspn, Option.map_some', step,
        show r = seps.tail ++ c :: r2' by cases seps <;> simp_all]
      have : sepRuns isSep (seps.tail ++ c :: r2') = sepRuns isSep (c :: r2') :=
        sepRuns_seps _ fun x h => seps' x (List.mem_of_mem_tail h)
      simp [this, hc']

theorem depTokens_spec_leading_space :
    depTokens (· == ' ') 7 (some " a  b".toList) = some [[], ['a'], ['b']] :=
  (depTokens_spec " a  b".toList 7 (by decide)).trans (by decide)

end

/-- A value of a dependency array: `ADB_NULL`, `ADB_ERROR(code)`, or the handle of a
committed dependency object, which stands for the object's fields. -/
inductive AdbVal
  | null
  | error (code : Nat)
  | object (d : DepObj)
  deriving DecidableEq, Repr

/-- An array object being built: the values appended so far and the room the
`num_fields` of its schema gives it. -/
structure ArrayObj where
  items : List AdbVal
  room : Nat
  deriving DecidableEq, Repr

/-- `E2BIG`, the error of an append to a full array. -/
def e2big : Nat := 7

/-- Modelled from the spec: `adb_wa_append(obj, v)`, "append(handle) up to max_fields"
(§4.5). An ERROR value is stored like any other, so that the commit sees it. -/
def adbWaAppend (o : ArrayObj) (v : AdbVal) : AdbVal × ArrayObj :=
  if o.items.length < o.room then (v, { o with items := o.items ++ [v] }) else (.error e2big, o)

/-- Modelled from the spec: `adb_w_obj(obj)`, the commit of an object, returns the
handle tagged OBJECT of its fields (§4.5). -/
def adbWObj (d : DepObj) : AdbVal := .object d

/-- `adb_wa_append_obj(obj, &dep)`. -/
def adbWaAppendObj (o : ArrayObj) (d : DepObj) : AdbVal × ArrayObj := adbWaAppend o (adbWObj d)

/-- Modelled from the spec: the fields `dep` holds after `adb_wo_fromstring(&dep, bdep)`,
which resets it and runs `dependency_fromstring`; a failed parse has written nothing. -/
def adbWoFromstring (bdep : Blob) : DepObj := (dependencyFromstring bdep).getD ⟨none, none, none⟩

section
variable (isSep : Char → Bool)

/-- `dependencies_fromstring(obj, b)`: every token `apk_dep_split` yields is parsed into
`dep` and appended to `obj`, and 0 is returned. It is `none` only if the split loop had
not stopped within `b.length + 2` calls, which `depTokens_spec` rules out. -/
def dependenciesFromstring (obj : ArrayObj) (b : Blob) : Option (Int × ArrayObj) :=
  (depTokens isSep (b.length + 2) (some b)).map fun toks =>
    (0, toks.foldl (fun o bdep => (adbWaAppendObj o (adbWoFromstring bdep)).2) obj)

theorem appendParsed_foldl (toks : List Blob) (obj : ArrayObj)
    (accepted : ∀ tok ∈ toks, ∃ d, dependencyFromstring tok = some d)
    (room : obj.items.length + toks.length ≤ obj.room) :
    ∃ ds : List DepObj, toks.map dependencyFromstring = ds.map some ∧
      toks.foldl (fun o bdep => (adbWaAppendObj o (adbWoFromstring bdep)).2) obj =
        ⟨obj.items ++ ds.map adbWObj, obj.room⟩ := by
  induction toks generalizing obj with
  | nil => exact ⟨[], rfl, by simp⟩
  | cons tok toks ih =>
    obtain ⟨d, hd⟩ := accepted tok (List.mem_cons_self _ _)
    have fits : obj.items.length < obj.room := by simp at room; omega
    obtain ⟨ds, hmap, hfold⟩ := ih ⟨obj.items ++ [.object d], obj.room⟩
      (fun t h => accepted t (List.mem_cons_of_mem _ h)) (by simp at room ⊢; omega)
    refine ⟨d :: ds, by simp [hd, hmap], ?_⟩
    simp only [List.foldl_cons, adbWaAppendObj, adbWaAppend, adbWoFromstring, hd, adbWObj,
      Option.getD_some, fits, ↓reduceIte]
    simpa [adbWObj] using hfold

/-- When every token is accepted and the array has room for all of them,
`dependencies_fromstring` returns 0 and appends, in order, the object parsed from each. -/
theorem dependencies_fromstring_appends (obj : ArrayObj) (b : Blob) (toks : List Blob)
    (split : depTokens isSep (b.length + 2) (some b) = some toks)
    (accepted : ∀ tok ∈ toks, ∃ d, dependencyFromstring tok = some d)
    (room : obj.items.length + toks.length ≤ obj.room) :
    ∃ ds : List DepObj, toks.map dependencyFromstring = ds.map some ∧
      dependenciesFromstring isSep obj b = some (0, ⟨obj.items ++ ds.map adbWObj, obj.room⟩) := by
  obtain ⟨ds, hmap, hfold⟩ := appendParsed_foldl toks obj accepted room
  exact ⟨ds, hmap, by simp [dependenciesFromstring, split, hfold]⟩

end

/-- Modelled from the spec: `apk_spn_dependency_separator`, whitespace and commas (§4.4). -/
def apkSpnDependencySeparator (c : Char) : Bool :=
  c == ' ' || c == '\t' || c == '\n' || c == '\r' || c == ','

/-- A rejected token leaves an empty dependency in the array and 0 as the result. -/
theorem dependencies_fromstring_hides_rejects :
    dependencyFromstring "a>".toList = none ∧
    dependenciesFromstring apkSpnDependencySeparator ⟨[], 1⟩ "a>".toList =
      some (0, ⟨[.object ⟨none, none, none⟩], 1⟩) := by
  decide

/-- An empty blob, and a blob that starts with a separator, give an empty token first. -/
theorem apk_dep_split_empty_token :
    depTokens apkSpnDependencySeparator 2 (some []) = some [[]] ∧
      sepRuns apkSpnDependencySeparator [] = [] ∧
    depTokens apkSpnDependencySeparator 5 (some " a".toList) = some [[], "a".toList] ∧
      sepRuns apkSpnDependencySeparator " a".toList = ["a".toList] := by
  decide

end ApkTools
