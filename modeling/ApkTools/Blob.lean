import Mathlib.Data.List.Basic

/-! Blobs and the span helpers of `apk_blob.c` that the dependency parsers in
`apk_adb.c` are written with. A blob is the list of its bytes; `APK_BLOB_NULL`
is kept apart with `Option` where the code tests for it. -/
namespace ApkTools

abbrev Blob := List Char

/-- Cut `b` before its first byte that `stop` accepts: `none` when there is no
such byte, in which case the two output blobs of the C helpers are left alone. -/
def blobBreak (stop : Char → Bool) : Blob → Option (Blob × Blob)
  | [] => none
  | c :: cs =>
    if stop c then some ([], c :: cs)
    else (blobBreak stop cs).map fun (l, r) => (c :: l, r)

/-- Modelled from the spec: `apk_blob_spn(blob, accept, &l, &r)` (apk_blob.c is not
among the sources). Returns 1 with `l` the longest prefix of accepted bytes and `r`
the rest when some byte is not accepted, and 0 otherwise, as every caller here reads it. -/
def apkBlobSpn (accept : Char → Bool) (b : Blob) : Option (Blob × Blob) :=
  blobBreak (fun c => !accept c) b

/-- Modelled from the spec: `apk_blob_cspn(blob, reject, &l, &r)`, the complement of
`apkBlobSpn`: it stops at the first rejected byte. -/
def apkBlobCspn (reject : Char → Bool) (b : Blob) : Option (Blob × Blob) :=
  blobBreak reject b

section
variable {stop : Char → Bool}

@[simp] theorem blobBreak_nil : blobBreak stop [] = none := rfl

theorem blobBreak_eq_none_iff {b : Blob} :
    blobBreak stop b = none ↔ ∀ c ∈ b, stop c = false := by
  induction b with
  | nil => simp
  | cons c cs ih => by_cases h : stop c <;> simp [blobBreak, h, ih]

/-- The cut is at the first stopping byte. -/
theorem blobBreak_append {l r : Blob} {c : Char} (clean : ∀ x ∈ l, stop x = false)
    (stops : stop c = true) : blobBreak stop (l ++ c :: r) = some (l, c :: r) := by
  induction l with
  | nil => simp [blobBreak, stops]
  | cons x xs ih =>
    simp only [List.mem_cons, forall_eq_or_imp] at clean
    simp [blobBreak, clean.1, ih clean.2]

theorem blobBreak_eq_some {b l r : Blob} (h : blobBreak stop b = some (l, r)) :
    b = l ++ r ∧ (∀ x ∈ l, stop x = false) ∧ ∃ c r', r = c :: r' ∧ stop c = true := by
  induction b generalizing l with
  | nil => simp at h
  | cons c cs ih =>
    by_cases hc : stop c
    · simp only [blobBreak, hc, ↓reduceIte, Option.some.injEq, Prod.mk.injEq] at h
      obtain ⟨rfl, rfl⟩ := h
      exact ⟨rfl, by simp, c, cs, rfl, hc⟩
    · simp only [blobBreak, hc, Bool.false_eq_true, ↓reduceIte, Option.map_eq_some',
        Prod.exists] at h
      obtain ⟨l', r', hb, hl⟩ := h
      simp only [Prod.mk.injEq] at hl
      obtain ⟨rfl, rfl⟩ := hl
      obtain ⟨rfl, clean, rest⟩ := ih hb
      refine ⟨rfl, ?_, rest⟩
      simpa [hc] using clean

end

end ApkTools
