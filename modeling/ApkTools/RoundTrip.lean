import ApkTools.Grammar

/-! Rendering a parsed dependency with `dependency_tostring` and parsing the text again
gives back the same fields, for every parsed dependency with a name, no CONFLICT bit, a
mask the operator table renders and no NUL byte for `%.*s` to stop at. The exceptions
are `dependency_tostring_roundtrip_breaks`. -/
namespace ApkTools

/-- What `depParse` can produce: the written fields of a name without operator bytes,
either with the mask it started from and no version, or with the mask of an operator
run and the version after it. -/
theorem depParse_eq_some {mask : Nat} {b : Blob} {d : DepObj} (h : depParse mask b = some d) :
    (∀ c ∈ b, apkSpnDependencyComparer c = false) ∧ d = depWrite b mask [] ∨
    ∃ bname o ver, (∀ c ∈ bname, apkSpnDependencyComparer c = false) ∧ OpVer o ver ∧
      d = depWrite bname (opMask o) ver := by
  unfold depParse at h
  cases hcut : apkBlobCspn apkSpnDependencyComparer b with
  | none =>
    simp only [hcut, Option.some.injEq] at h
    exact .inl ⟨blobBreak_eq_none_iff.mp hcut, h.symm⟩
  | some p =>
    obtain ⟨bname, bop⟩ := p
    obtain ⟨-, clean, c, r, rfl, hc⟩ := blobBreak_eq_some hcut
    cases hspn : apkBlobSpn apkSpnDependencyComparer (c :: r) with
    | none => simp [hcut, hspn] at h
    | some q =>
      obtain ⟨o, ver⟩ := q
      obtain ⟨hsplit, ops, c', v', rfl, hc'⟩ := blobBreak_eq_some hspn
      simp only [hcut, hspn] at h
      split_ifs at h with h0 hv
      refine .inr ⟨bname, o, c' :: v', clean, ⟨?_, ?_, ⟨c', v', rfl, ?_⟩, ?_⟩,
        (Option.some.inj h).symm⟩
      · rintro rfl
        simp only [List.nil_append, List.cons.injEq] at hsplit
        simp_all
      · simpa using ops
      · simpa using hc'
      · by_cases hcs : opMask o &&& apkDepmaskChecksum = apkDepmaskChecksum
        · exact .inr hcs
        · exact .inl (by simpa [hcs] using hv)

/-- `dependency_fromstring` always ends in `depParse`, from ANY or, after a `!`, from
ANY with CONFLICT. -/
theorem dependencyFromstring_eq (t : Blob) :
    ∃ mask b, (mask = apkDepmaskAny ∨ mask = apkDepmaskAny ||| apkVersionConflict) ∧
      dependencyFromstring t = depParse mask b := by
  match t with
  | '!' :: b => exact ⟨_, b, .inr rfl, rfl⟩
  | [] => exact ⟨_, [], .inl rfl, rfl⟩
  | c :: b =>
    by_cases hc : c = '!'
    · subst hc; exact ⟨_, b, .inr rfl, rfl⟩
    · exact ⟨_, c :: b, .inl rfl, dependencyFromstring_plain (by simpa using hc)⟩

/-- `depWrite` keeps the name up to its first `@`. -/
theorem depWrite_cut (bname : Blob) (mask : Nat) (bver : Blob) :
    ∃ name, name <+: bname ∧ (∀ c ∈ name, apkSpnRepotagSeparator c = false) ∧
      depWrite bname mask bver = depWrite name mask bver := by
  cases hcut : apkBlobCspn apkSpnRepotagSeparator bname with
  | none => exact ⟨bname, List.prefix_refl _, blobBreak_eq_none_iff.mp hcut, rfl⟩
  | some p =>
    obtain ⟨l, r⟩ := p
    obtain ⟨rfl, clean, -⟩ := blobBreak_eq_some hcut
    refine ⟨l, List.prefix_append _ _, clean, ?_⟩
    rw [depWrite_plain clean]
    simp only [depWrite, hcut]

theorem Renderable.bits {mask : Nat} (h : Renderable mask) :
    mask ≠ 0 ∧ mask ≠ apkDepmaskAny ∧ mask &&& apkVersionConflict = 0 ∧
      maskOff mask apkVersionConflict = mask := by
  obtain ⟨op, mem, rfl⟩ := h
  revert op
  decide

theorem blobPrintf_of_not_mem {b : Blob} (h : '\x00' ∉ b) : blobPrintf b = b :=
  List.takeWhile_eq_self_iff.mpr fun _ hx => decide_eq_true fun e => h (e ▸ hx)

/-- A name alone renders as itself and parses back. -/
theorem roundtrip_name {n : Blob} (hn : n ≠ [])
    (clean : ∀ c ∈ n, apkSpnDependencyComparer c = false ∧ apkSpnRepotagSeparator c = false)
    (bang : n.head? ≠ some '!') (bufsz : Nat) :
    (dependencyTostring ⟨some n, none, none⟩ bufsz).text = some n ∧
      dependencyFromstring n = some ⟨some n, none, none⟩ := by
  refine ⟨rfl, ?_⟩
  rw [dependencyFromstring_plain bang, depParse_plain fun c h => (clean c h).1,
    depWrite_plain fun c h => (clean c h).2]
  simp [adbWBlob, hn]

theorem head_append_of_ne_nil {a b : Blob} (h : a ≠ []) : (a ++ b).head? = a.head? := by
  cases a with
  | nil => exact absurd rfl h
  | cons => rfl

/-- A name, a version and a renderable mask render as the name, the table's operator
and the version. -/
theorem dependencyTostring_depWrite {name o ver : Blob} (hn : name ≠ [])
    (clean : ∀ c ∈ name, apkSpnRepotagSeparator c = false) (ov : OpVer o ver)
    (ren : Renderable (opMask o)) (nulName : '\x00' ∉ name) (nulVer : '\x00' ∉ ver) (bufsz : Nat) :
    dependencyTostring (depWrite name (opMask o) ver) bufsz =
      snprintf bufsz (name ++ apkVersionOpString (opMask o) ++ ver) := by
  obtain ⟨h0, hany, hconf, hoff⟩ := ren.bits
  obtain ⟨c, v', rfl, -⟩ := ov.ver_head
  rw [depWrite_plain clean]
  by_cases he : opMask o = apkVersionEqual
  · rw [he] at hconf hoff
    simp [dependencyTostring, adbWBlob, hn, he, apkVersionEqual_ne_any, hconf, hoff,
      blobPrintf_of_not_mem nulName, blobPrintf_of_not_mem nulVer]
  · simp [dependencyTostring, adbWBlob, hn, hany, he, h0, hconf, hoff,
      blobPrintf_of_not_mem nulName, blobPrintf_of_not_mem nulVer]

/-- That rendering parses back to the same fields. -/
theorem dependencyFromstring_rendered {name o ver : Blob} (hn : name ≠ [])
    (clean : ∀ c ∈ name, apkSpnDependencyComparer c = false ∧ apkSpnRepotagSeparator c = false)
    (bang : name.head? ≠ some '!') (ov : OpVer o ver) (ren : Renderable (opMask o)) :
    dependencyFromstring (name ++ apkVersionOpString (opMask o) ++ ver) =
      some (depWrite name (opMask o) ver) := by
  have table := opTable_comparers _ (apkVersionOpString_mem ren)
  have same := opMask_apkVersionOpString ren
  have ov' : OpVer (apkVersionOpString (opMask o)) ver :=
    ⟨table.1, table.2, ov.ver_head, by rw [same]; exact ov.valid⟩
  rw [List.append_assoc, dependencyFromstring_plain (by rwa [head_append_of_ne_nil hn]),
    depParse_op (by decide) (fun c h => (clean c h).1) ov', same]

/-- What the round trip needs of a parsed dependency: a name without NUL bytes that
does not start with `!`, a version without NUL bytes, no CONFLICT bit, and a mask the
operator table renders, or ANY. -/
structure Printable (d : DepObj) : Prop where
  name : ∃ n, d.name = some n ∧ '\x00' ∉ n ∧ n.head? ≠ some '!'
  version : ∀ v ∈ d.version, '\x00' ∉ v
  no_conflict : d.effMask &&& apkVersionConflict = 0
  renderable : Renderable d.effMask ∨ d.effMask = apkDepmaskAny

theorem depWrite_name {name ver n : Blob} {mask : Nat}
    (clean : ∀ c ∈ name, apkSpnRepotagSeparator c = false)
    (h : (depWrite name mask ver).name = some n) : name = n ∧ n ≠ [] := by
  rw [depWrite_plain clean] at h
  by_cases e : name = [] <;> simp_all [adbWBlob]

theorem effMask_depWrite {name ver : Blob} (mask : Nat)
    (clean : ∀ c ∈ name, apkSpnRepotagSeparator c = false) (hv : ver ≠ []) :
    (depWrite name mask ver).effMask = mask := by
  rw [depWrite_plain clean]
  by_cases ha : mask = apkDepmaskAny
  · simp [DepObj.effMask, ha]
  · by_cases he : mask = apkVersionEqual <;>
      simp [DepObj.effMask, adbWBlob, ha, he, hv, apkVersionEqual_ne_any]

/-- Parse after render is the identity on every printable dependency the parser
produces, for every buffer the rendered text fits in. -/
theorem dependency_tostring_roundtrip {t : Blob} {d : DepObj}
    (parsed : dependencyFromstring t = some d) (printable : Printable d) (bufsz : Nat)
    (fits : ∀ w n, dependencyTostring d bufsz = .buf w n → n < bufsz) :
    ∃ s, (dependencyTostring d bufsz).text = some s ∧ dependencyFromstring s = some d := by
  obtain ⟨mask, b, hmask, hparse⟩ := dependencyFromstring_eq t
  rw [hparse] at parsed
  obtain ⟨n, hn, nulName, bang⟩ := printable.name
  rcases depParse_eq_some parsed with ⟨clean, rfl⟩ | ⟨bname, o, ver, clean, ov, rfl⟩
  · obtain ⟨name, pre, at_free, hw⟩ := depWrite_cut b mask []
    rw [hw] at hn printable ⊢
    obtain ⟨rfl, ne⟩ := depWrite_name at_free hn
    rw [depWrite_plain at_free] at printable ⊢
    rcases hmask with rfl | rfl
    · have := roundtrip_name ne (fun c h => ⟨clean c (pre.subset h), at_free c h⟩) bang bufsz
      exact ⟨name, by simpa [adbWBlob, ne] using this⟩
    · have conflict := printable.no_conflict
      have bits : apkDepmaskAny ||| apkVersionConflict ≠ apkDepmaskAny ∧
          apkDepmaskAny ||| apkVersionConflict ≠ apkVersionEqual ∧
          (apkDepmaskAny ||| apkVersionConflict) &&& apkVersionConflict ≠ 0 := by decide
      simp [DepObj.effMask, bits] at conflict
  · obtain ⟨name, pre, at_free, hw⟩ := depWrite_cut bname (opMask o) ver
    rw [hw] at hn printable fits ⊢
    obtain ⟨rfl, ne⟩ := depWrite_name at_free hn
    have clean' :
        ∀ c ∈ name, apkSpnDependencyComparer c = false ∧ apkSpnRepotagSeparator c = false :=
      fun c h => ⟨clean c (pre.subset h), at_free c h⟩
    have hv : ver ≠ [] := by obtain ⟨c, v', rfl, -⟩ := ov.ver_head; exact List.cons_ne_nil c v'
    have renderable := printable.renderable
    rw [effMask_depWrite _ at_free hv] at renderable
    rcases renderable with ren | hany
    · have nulVer : '\x00' ∉ ver :=
        printable.version ver (by simp [depWrite_plain at_free, adbWBlob, hv, ren.bits.2.1])
      have render := dependencyTostring_depWrite ne at_free ov ren nulName nulVer bufsz
      refine ⟨_, ?_, dependencyFromstring_rendered ne clean' bang ov ren⟩
      rw [render] at fits ⊢
      exact snprintf_text (fits _ _ rfl)
    · have := roundtrip_name ne clean' bang bufsz
      rw [depWrite_plain at_free, hany]
      exact ⟨name, by simpa [adbWBlob, ne] using this⟩

theorem dependency_tostring_roundtrip_fuzzy :
    ∃ s, (dependencyTostring ⟨some "c".toList, some "2.0".toList,
        some (apkVersionFuzzy ||| apkVersionEqual)⟩ 64).text = some s ∧
      dependencyFromstring s = some ⟨some "c".toList, some "2.0".toList,
        some (apkVersionFuzzy ||| apkVersionEqual)⟩ := by
  have render : dependencyTostring ⟨some "c".toList, some "2.0".toList,
      some (apkVersionFuzzy ||| apkVersionEqual)⟩ 64 = .buf "c~2.0".toList 5 := by decide
  refine dependency_tostring_roundtrip (t := "c~2.0".toList) (by decide)
    ⟨⟨"c".toList, rfl, by decide, by decide⟩, fun v h => by cases h; decide, by decide,
      .inl (by decide)⟩ 64 fun w n h => ?_
  rw [render] at h
  cases h
  decide

/-- A nameless dependency renders as `APK_BLOB_NULL`; a conflict without a version
renders without its `!`; the mask `<>=` has no operator in the table; and `%.*s` stops
at a NUL byte of the name. -/
theorem dependency_tostring_roundtrip_breaks :
    (dependencyFromstring "=1".toList).map (dependencyTostring · 64) = some .null ∧
    dependencyFromstring "!foo".toList =
        some ⟨some "foo".toList, none, some (apkDepmaskAny ||| apkVersionConflict)⟩ ∧
      dependencyTostring ⟨some "foo".toList, none, some (apkDepmaskAny ||| apkVersionConflict)⟩ 64 =
        .db "foo".toList ∧
      dependencyFromstring "foo".toList = some ⟨some "foo".toList, none, none⟩ ∧
    (dependencyFromstring "foo<>=1".toList).map (dependencyTostring · 64) =
        some (.buf "foo?1".toList 5) ∧
      (dependencyFromstring "foo?1".toList).map DepObj.name = some (some "foo?1".toList) ∧
    (dependencyFromstring "a\x00b=1".toList).map (dependencyTostring · 64) =
        some (.buf "a=1".toList 3) := by
  decide

end ApkTools
