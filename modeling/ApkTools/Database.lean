import ApkTools.Adb.Schema

/-! The inline helpers of apk_database.h: `apk_protect_mode_none` and the display order of
names, `apk_name_cmp_display`. Names are C strings, a byte per character with no NUL;
`strcmp` and `strcasecmp` of the C library in the C locale are given by their sign.

* `apk_name_cmp_display_order`: `apk_name_cmp_display` orders names case-insensitively,
  breaks the ties of that order by `strcmp`, and so ties only on equal names. -/
namespace ApkTools.Database

/-- `enum apk_protect_mode`. -/
inductive ApkProtectMode
  | apkProtectNone | apkProtectIgnore | apkProtectChanged | apkProtectSymlinksOnly
  | apkProtectAll
  deriving DecidableEq, Repr

/-- `apk_protect_mode_none(mode)`. -/
def apkProtectModeNone (mode : ApkProtectMode) : Bool :=
  mode == .apkProtectNone || mode == .apkProtectIgnore

/-- `strcmp(a, b)`, by its sign: byte order. -/
def strcmp (a b : Blob) : Int := byteOrder a b

/-- `strcasecmp(a, b)`, by its sign: byte order of the bytes through `tolower`. -/
def strcasecmp (a b : Blob) : Int := byteOrder (a.map Char.toLower) (b.map Char.toLower)

/-- `apk_name_cmp_display(a, b)` of the names `a->name` and `b->name`. -/
def apkNameCmpDisplay (a b : Blob) : Int :=
  let r := strcasecmp a b
  if r ≠ 0 then r else strcmp a b

theorem byteOrder_eq_zero_iff (a b : Blob) : byteOrder a b = 0 ↔ a = b := by
  induction a generalizing b with
  | nil => cases b <;> simp [byteOrder]
  | cons x xs ih =>
    cases b with
    | nil => simp [byteOrder]
    | cons y ys =>
      simp only [byteOrder, List.cons.injEq, ← ih ys]
      have bytes : x = y ↔ x.toNat = y.toNat :=
        ⟨congrArg Char.toNat, fun same => by rw [← Char.ofNat_toNat x, same, Char.ofNat_toNat]⟩
      rw [bytes]
      split_ifs with lt gt
      · exact iff_of_false id fun ⟨same, _⟩ => by omega
      · exact iff_of_false (by decide) fun ⟨same, _⟩ => by omega
      · exact ⟨fun rest => ⟨by omega, rest⟩, And.right⟩

/-- Names are shown case-insensitively in order, those that differ only in case in byte
order, and no two names tie. -/
theorem apk_name_cmp_display_order :
    CmpOrder apkNameCmpDisplay ∧ (∀ a b, apkNameCmpDisplay a b = 0 ↔ a = b) ∧
      ∀ a b, a.map Char.toLower ≠ b.map Char.toLower →
        (apkNameCmpDisplay a b < 0 ↔ byteOrder (a.map Char.toLower) (b.map Char.toLower) < 0) := by
  have lower := byteOrder_order.comap fun name : Blob => name.map Char.toLower
  refine ⟨lower.lex byteOrder_order, fun a b => ?_, fun a b differ => ?_⟩
  · rw [show apkNameCmpDisplay a b = lexCmp strcasecmp strcmp a b from rfl, lexCmp_eq_zero]
    exact ⟨fun ties => (byteOrder_eq_zero_iff a b).mp ties.2,
      fun same => ⟨(byteOrder_eq_zero_iff _ _).mpr (congrArg _ same),
        (byteOrder_eq_zero_iff a b).mpr same⟩⟩
  · have key : byteOrder (a.map Char.toLower) (b.map Char.toLower) ≠ 0 :=
      mt (byteOrder_eq_zero_iff _ _).mp differ
    simp only [apkNameCmpDisplay, strcasecmp, if_pos key]

end ApkTools.Database
