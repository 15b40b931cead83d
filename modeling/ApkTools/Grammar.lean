import ApkTools.Dependency

/-! The grammar `[!]name[@tag][ops ver]` of §4.4 against `dependency_fromstring`.
Every text of the grammar parses to its name, and to its version and mask, except that
a leading `!` before operators is lost: the operator loop starts again from `mask = 0`
after the `!` test has set CONFLICT. -/
namespace ApkTools

/-- A dependency text by its parts: a leading `!`, the name, an optional `@tag`, and
optionally an operator run with the version after it. -/
structure DepText where
  conflict : Bool
  name : Blob
  tag : Option Blob
  op : Option (Blob × Blob)
  deriving DecidableEq, Repr

/-- The name with its repository tag. -/
def DepText.tagged (t : DepText) : Blob := t.name ++ (t.tag.map ('@' :: ·)).getD []

def DepText.text (t : DepText) : Blob :=
  (if t.conflict then ['!'] else []) ++ t.tagged ++ (t.op.map fun p => p.1 ++ p.2).getD []

/-- The mask the text spells: its operators' bits, ANY without operators, and
CONFLICT after a `!`. -/
def DepText.mask (t : DepText) : Nat :=
  (t.op.map fun p => opMask p.1).getD apkDepmaskAny |||
    (if t.conflict then apkVersionConflict else 0)

/-- An operator run and the version after it, as the grammar has them: the version
does not start with an operator byte, and it is valid unless the operators ask for
a checksum. -/
structure OpVer (o v : Blob) : Prop where
  ops_ne : o ≠ []
  ops : ∀ c ∈ o, apkSpnDependencyComparer c = true
  ver_head : ∃ c v', v = c :: v' ∧ apkSpnDependencyComparer c = false
  valid : apkVersionValidate v = true ∨ opMask o &&& apkDepmaskChecksum = apkDepmaskChecksum

/-- A name without operator bytes or `@` that does not start with `!` (a text that
starts with `!` has it as its prefix), and a tag without operator bytes. -/
structure DepText.Valid (t : DepText) : Prop where
  name_ne : t.name ≠ []
  name_plain : ∀ c ∈ t.name, apkSpnDependencyComparer c = false ∧ apkSpnRepotagSeparator c = false
  name_bang : t.name.head? ≠ some '!'
  tag_plain : ∀ tag ∈ t.tag, ∀ c ∈ tag, apkSpnDependencyComparer c = false
  op : ∀ p ∈ t.op, OpVer p.1 p.2

theorem dependencyFromstring_bang (b : Blob) :
    dependencyFromstring ('!' :: b) = depParse (apkDepmaskAny ||| apkVersionConflict) b := rfl

theorem dependencyFromstring_plain {b : Blob} (h : b.head? ≠ some '!') :
    dependencyFromstring b = depParse apkDepmaskAny b := by
  cases b with
  | nil => rfl
  | cons c cs =>
    have hc : c ≠ '!' := by simpa using h
    simp [dependencyFromstring, hc]

theorem depParse_plain {mask : Nat} {b : Blob}
    (h : ∀ c ∈ b, apkSpnDependencyComparer c = false) :
    depParse mask b = some (depWrite b mask []) := by
  simp [depParse, apkBlobCspn, blobBreak_eq_none_iff.mpr h]

/-- The cut at the first operator byte, then at the end of the operator run. -/
theorem depParse_op {mask : Nat} {bname o v : Blob} (hm : mask ≠ 0)
    (hn : ∀ c ∈ bname, apkSpnDependencyComparer c = false) (ov : OpVer o v) :
    depParse mask (bname ++ (o ++ v)) = some (depWrite bname (opMask o) v) := by
  obtain ⟨c, o', rfl⟩ := List.exists_cons_of_ne_nil ov.ops_ne
  obtain ⟨d, v', rfl, hd⟩ := ov.ver_head
  have hcut : apkBlobCspn apkSpnDependencyComparer (bname ++ (c :: o' ++ d :: v')) =
      some (bname, c :: o' ++ d :: v') :=
    blobBreak_append hn (ov.ops c (List.mem_cons_self _ _))
  have hspn : apkBlobSpn apkSpnDependencyComparer (c :: o' ++ d :: v') = some (c :: o', d :: v') :=
    blobBreak_append (fun x hx => by simp [ov.ops x hx]) (by simp [hd])
  have hval := ov.valid
  simp only [depParse, hcut, hm, hspn, ↓reduceIte]
  split_ifs with h
  · exact absurd h (by rcases hval with h' | h' <;> simp [h'])
  · rfl

theorem tagged_plain {t : DepText} (valid : t.Valid) :
    ∀ c ∈ t.tagged, apkSpnDependencyComparer c = false := by
  intro c hc
  rcases List.mem_append.mp hc with h | h
  · exact (valid.name_plain c h).1
  · cases ht : t.tag with
    | none => simp [ht] at h
    | some tag =>
      simp only [ht, Option.map_some', Option.getD_some, List.mem_cons] at h
      rcases h with rfl | h
      · rfl
      · exact valid.tag_plain tag ht c h

theorem depWrite_tagged {t : DepText} (valid : t.Valid) (mask : Nat) (bver : Blob) :
    depWrite t.tagged mask bver = depWrite t.name mask bver := by
  have clean : ∀ c ∈ t.name, apkSpnRepotagSeparator c = false := fun c h => (valid.name_plain c h).2
  have hname : apkBlobCspn apkSpnRepotagSeparator t.name = none := blobBreak_eq_none_iff.mpr clean
  cases ht : t.tag with
  | none => simp [DepText.tagged, ht]
  | some tag =>
    have hcut : apkBlobCspn apkSpnRepotagSeparator t.tagged = some (t.name, '@' :: tag) := by
      simpa [DepText.tagged, ht] using blobBreak_append (r := tag) clean (c := '@') rfl
    simp only [depWrite, hcut, hname]

theorem dependencyFromstring_text {t : DepText} (valid : t.Valid) :
    dependencyFromstring t.text = some (depWrite t.name
      ((t.op.map fun p => opMask p.1).getD
        (apkDepmaskAny ||| if t.conflict then apkVersionConflict else 0))
      ((t.op.map Prod.snd).getD [])) := by
  have start : ∀ mask, mask ≠ 0 →
      depParse mask (t.tagged ++ (t.op.map fun p => p.1 ++ p.2).getD []) =
        some (depWrite t.name ((t.op.map fun p => opMask p.1).getD mask)
          ((t.op.map Prod.snd).getD [])) := by
    intro mask hm
    rw [← depWrite_tagged valid]
    cases hop : t.op with
    | none => simpa using depParse_plain (tagged_plain valid)
    | some p => simpa using depParse_op hm (tagged_plain valid) (valid.op p hop)
  cases hc : t.conflict
  · have hhead : (t.tagged ++ (t.op.map fun p => p.1 ++ p.2).getD []).head? ≠ some '!' := by
      obtain ⟨c, n, hn⟩ := List.exists_cons_of_ne_nil valid.name_ne
      have := valid.name_bang
      simp_all [DepText.tagged]
    simpa [DepText.text, hc, dependencyFromstring_plain hhead] using start _ (by decide)
  · simpa [DepText.text, hc, List.append_assoc, dependencyFromstring_bang] using start _ (by decide)

theorem depWrite_plain {name : Blob} (clean : ∀ c ∈ name, apkSpnRepotagSeparator c = false)
    (mask : Nat) (bver : Blob) :
    depWrite name mask bver = ⟨adbWBlob name,
      if mask ≠ apkDepmaskAny then adbWBlob bver else none,
      if mask ≠ apkDepmaskAny ∧ mask ≠ apkVersionEqual then some mask else none⟩ := by
  simp [depWrite, apkBlobCspn, blobBreak_eq_none_iff.mpr clean]

/-- Every text of the grammar is accepted with its name; a version is stored unless
the operators make the mask ANY; and the effective mask is the one the text spells,
CONFLICT included, whenever the text does not have both a `!` and operators. -/
theorem dependency_fromstring_grammar (t : DepText) (valid : t.Valid) :
    ∃ d, dependencyFromstring t.text = some d ∧ d.name = some t.name ∧
      (∀ p ∈ t.op, opMask p.1 ≠ apkDepmaskAny → d.version = some p.2) ∧
      (t.conflict = false ∨ t.op = none → d.effMask = t.mask) := by
  refine ⟨_, dependencyFromstring_text valid, ?_⟩
  rw [depWrite_plain fun c h => (valid.name_plain c h).2]
  have ne : ∀ b : Blob, b ≠ [] → adbWBlob b = some b := fun b h => by simp [adbWBlob, h]
  refine ⟨ne _ valid.name_ne, ?_, ?_⟩
  · intro p hp hm
    obtain ⟨c, v', hv, -⟩ := (valid.op p hp).ver_head
    simp [Option.mem_def.mp hp, hm, ne _ (hv ▸ List.cons_ne_nil c v')]
  · rintro (hc | hop)
    · cases hop : t.op with
      | none => simp [DepObj.effMask, DepText.mask, hop, hc]
      | some p =>
        obtain ⟨c, v', hv, -⟩ := (valid.op p hop).ver_head
        simp only [DepObj.effMask, DepText.mask, hop, hc, Option.map_some', Option.getD_some]
        by_cases ha : opMask p.1 = apkDepmaskAny
        · simp [ha]
        · by_cases he : opMask p.1 = apkVersionEqual
          · simp [ha, he, apkVersionEqual_ne_any, ne _ (hv ▸ List.cons_ne_nil c v')]
          · simp [ha, he]
    · cases hc : t.conflict <;>
        simp [DepObj.effMask, DepText.mask, hop, hc, adbWBlob]; decide

/-- The spec's own example loses its CONFLICT bit: parsed, it is a plain `>=` dependency,
and so it renders without the `!` that `dependency_tostring` prints for a conflict with a
version. -/
theorem dependency_fromstring_conflict_dropped :
    dependencyFromstring "!foo>=1.2.3-r4".toList =
      some ⟨some "foo".toList, some "1.2.3-r4".toList, some (apkVersionGreater ||| apkVersionEqual)⟩ ∧
    (dependencyFromstring "!foo>=1.2.3-r4".toList).map (dependencyTostring · 64) =
      some (.buf "foo>=1.2.3-r4".toList 13) ∧
    dependencyTostring ⟨some "foo".toList, some "1.2.3-r4".toList,
        some (apkVersionGreater ||| apkVersionEqual ||| apkVersionConflict)⟩ 64 =
      .buf "!foo>=1.2.3-r4".toList 14 := by
  decide

end ApkTools
