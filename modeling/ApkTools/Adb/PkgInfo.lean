import ApkTools.Adb.Value

/-! `adb_wo_pkginfo`, the text path by which the converter of legacy indices writes the
unique-id and repo-commit fields of a PkgInfo object. The object builder of adb.c and
`apk_blob_pull_hexdump` of apk_blob.c are not among the sources and are modelled from §5
and §6 of the spec; the field indices of apk_adb.h, `EAPKFORMAT`, `apk_blob_pull_csum`
and `adb_wo_val_fromstring` are taken as given. -/
namespace ApkTools

/-- Modelled from the spec: an object builder (`struct adb_obj`), the database it writes
to and the value each field is set to. -/
structure AdbObj where
  db : Adb
  fields : Nat → Handle

/-- Modelled from the spec: `adb_wo_val(obj, f, v)` sets field `f` to `v`, the last write
winning, and returns `v` (§5). -/
def AdbObj.adbWoVal (obj : AdbObj) (f : Nat) (v : Handle) : Handle × AdbObj :=
  (v, { obj with fields := Function.update obj.fields f v })

/-- What `apk_blob_pull_csum(&val, &csum)` does: from `val` and the bytes `csum.data`
holds, the `val` it leaves (`none` for `APK_BLOB_NULL`, when it could not decode) and the
bytes `csum.data` holds after. -/
abbrev PullCsum := Blob → Blob → Option Blob × Blob

/-- What `adb_wo_pkginfo` reads beyond its arguments: `ADBI_PI_UNIQUE_ID`,
`ADBI_PI_REPO_COMMIT`, `EAPKFORMAT`, `apk_blob_pull_csum` and `adb_wo_val_fromstring`. -/
structure PkgInfoEnv where
  uniqueId : Nat
  repoCommit : Nat
  eapkformat : Nat
  pullCsum : PullCsum
  fromstring : AdbObj → Nat → Blob → Handle × AdbObj

/-- The value of a hex digit of either case, as `dx` of apk_blob.c reads it. -/
def hexValue (c : Char) : Option Nat :=
  if c.isDigit then some (c.toNat - '0'.toNat)
  else if 'a'.toNat ≤ c.toNat ∧ c.toNat ≤ 'f'.toNat then some (c.toNat - 'a'.toNat + 10)
  else if 'A'.toNat ≤ c.toNat ∧ c.toNat ≤ 'F'.toNat then some (c.toNat - 'A'.toNat + 10)
  else none

/-- Modelled from the spec: `apk_blob_pull_hexdump(&b, to)` for a `to` of `n` bytes, the
bytes the first `2n` characters of `b` spell as hex digit pairs and the rest of `b`;
`APK_BLOB_NULL` when `b` is shorter or one of them is not a hex digit (§6). -/
def apkBlobPullHexdump : Nat → Blob → Option (Blob × Blob)
  | 0, b => some ([], b)
  | n + 1, hi :: lo :: b =>
    match hexValue hi, hexValue lo, apkBlobPullHexdump n b with
    | some h, some l, some (bytes, rest) => some (Char.ofNat (16 * h + l) :: bytes, rest)
    | _, _, _ => none
  | _ + 1, _ => none

/-- `get_unaligned32(p)`: the first four bytes at `p` as a `uint32_t`, least significant
first. -/
def getUnaligned32 (p : Blob) : Nat :=
  Nat.ofDigits 256 ((p.take 4).map fun c => c.toNat % 256)

/-- The end of `adb_wo_pkginfo`: a value that is neither `ADB_NULL` nor an error is set in
field `f` of the object, whose database is the one the conversion left. -/
def pkginfoStore (obj : AdbObj) (f : Nat) : Handle × Adb → Handle × AdbObj
  | (v, db) =>
    if v ≠ .null ∧ v.isError = false then { obj with db }.adbWoVal f v else (v, { obj with db })

/-- `adb_wo_pkginfo(obj, f, val)`, where `csumData` is what the uninitialised local
`csum.data` holds on entry. `APK_BLOB_NULL` has length 0, so the unique-id test of
`val.ptr` is part of its length test. -/
def adbWoPkginfo (env : PkgInfoEnv) (csumData : Blob) (obj : AdbObj) (f : Nat) (val : Blob) :
    Handle × AdbObj :=
  if f = env.uniqueId then
    pkginfoStore obj f <|
      if val.length < 4 then (.error env.eapkformat, obj.db)
      else obj.db.adbWInt (getUnaligned32 (env.pullCsum val csumData).2 &&& adbValueMask)
  else if f = env.repoCommit then
    pkginfoStore obj f <|
      if val.length < 40 then (.error env.eapkformat, obj.db)
      else match apkBlobPullHexdump 20 val with
        | some (bytes, _) => obj.db.adbWBlob bytes
        | none => (.error env.eapkformat, obj.db)
  else env.fromstring obj f val

theorem apkBlobPullHexdump_length {n : Nat} {b bytes rest : Blob}
    (h : apkBlobPullHexdump n b = some (bytes, rest)) : bytes.length = n := by
  induction n generalizing b bytes with
  | zero => cases h; rfl
  | succ n ih =>
    match b, h with
    | hi :: lo :: b, h =>
      simp only [apkBlobPullHexdump] at h
      split at h
      · cases h
        simp [ih ‹_›]
      · cases h

/-- The hex dump of `n` bytes fails exactly when there are fewer than `2n` characters or
one of the first `2n` is not a hex digit. -/
theorem apkBlobPullHexdump_eq_none (n : Nat) (b : Blob) :
    apkBlobPullHexdump n b = none ↔
      b.length < 2 * n ∨ ∃ c ∈ b.take (2 * n), hexValue c = none := by
  induction n generalizing b with
  | zero => simp [apkBlobPullHexdump]
  | succ n ih =>
    match b with
    | [] | [_] => exact iff_of_true rfl (Or.inl (by simp only [List.length]; omega))
    | hi :: lo :: b =>
      rw [show 2 * (n + 1) = 2 * n + 1 + 1 by omega]
      simp only [apkBlobPullHexdump, List.length_cons, List.take_succ_cons, List.mem_cons,
        exists_eq_or_imp]
      rcases hexValue hi with _ | h <;> rcases hexValue lo with _ | l <;> simp
      rw [← ih b]
      cases apkBlobPullHexdump n b <;> simp

/-- An integer masked to the payload is stored inline and leaves the pools alone. -/
theorem adbWInt_masked (db : Adb) (n : Nat) :
    ∃ x : Fin (2 ^ 28), x.val = n &&& adbValueMask ∧
      db.adbWInt (n &&& adbValueMask) = (.int x, db) := by
  have lt : n &&& adbValueMask < 2 ^ 28 := Nat.and_lt_two_pow n (by decide)
  exact ⟨⟨_, lt⟩, rfl, db.adbWInt_inline ⟨_, lt⟩⟩

@[simp] theorem pkginfoStore_fst (obj : AdbObj) (f : Nat) (conv : Handle × Adb) :
    (pkginfoStore obj f conv).1 = conv.1 := by
  obtain ⟨v, db⟩ := conv
  unfold pkginfoStore
  dsimp only
  split <;> rfl

/-- A conversion that fails without touching the database leaves the object as it was. -/
theorem pkginfoStore_keeps (obj : AdbObj) (f : Nat) (conv : Handle × Adb)
    (untouched : conv.1.isError = true → conv.2 = obj.db)
    (failed : (pkginfoStore obj f conv).1.isError = true) : (pkginfoStore obj f conv).2 = obj := by
  obtain ⟨v, db⟩ := conv
  rw [pkginfoStore_fst] at failed
  cases untouched failed
  simp [pkginfoStore, failed]

/-- A blob of the pool is set in the field, with the database that holds it. -/
theorem pkginfoStore_adbWBlob (obj : AdbObj) (f : Nat) (bytes : Blob) (nonempty : bytes ≠ []) :
    pkginfoStore obj f (obj.db.adbWBlob bytes) =
      { obj with db := (obj.db.adbWBlob bytes).2 }.adbWoVal f (obj.db.adbWBlob bytes).1 := by
  have readback := obj.db.adbRBlob_adbWBlob bytes
  have fine := obj.db.adbWBlob_not_error bytes
  rw [if_neg nonempty] at readback
  generalize obj.db.adbWBlob bytes = w at readback fine ⊢
  obtain ⟨v, db⟩ := w
  have stored : v ≠ .null := by rintro rfl; cases readback
  simp [pkginfoStore, stored, fine]

/-- A unique-id or repo-commit conversion that fails leaves the object as it was. -/
theorem adbWoPkginfo_error_keeps (env : PkgInfoEnv) (csumData : Blob) (obj : AdbObj) (f : Nat)
    (val : Blob) (converted : f = env.uniqueId ∨ f = env.repoCommit)
    (failed : (adbWoPkginfo env csumData obj f val).1.isError = true) :
    (adbWoPkginfo env csumData obj f val).2 = obj := by
  unfold adbWoPkginfo at failed ⊢
  split_ifs at failed ⊢ with unique short _ long
  · exact pkginfoStore_keeps obj f _ (fun _ => rfl) failed
  · refine pkginfoStore_keeps obj f _ (fun wrote => ?_) failed
    simp [Adb.adbWInt_not_error] at wrote
  · exact pkginfoStore_keeps obj f _ (fun _ => rfl) failed
  · refine pkginfoStore_keeps obj f _ (fun wrote => ?_) failed
    rcases dump : apkBlobPullHexdump 20 val with _ | ⟨bytes, _⟩ <;>
      simp only [dump] at wrote ⊢
    simp [Adb.adbWBlob_not_error] at wrote
  · exact absurd (converted.resolve_left unique) ‹_›

theorem bytes_ne_nil_of_dump {val bytes rest : Blob}
    (dump : apkBlobPullHexdump 20 val = some (bytes, rest)) : bytes ≠ [] := by
  rw [← List.length_pos, apkBlobPullHexdump_length dump]
  decide

/-- For repo-commit the length test is part of the hex dump's: the conversion sets the field
to a blob of the dumped bytes, or fails and leaves the object as it was. -/
theorem adbWoPkginfo_repoCommit_eq (env : PkgInfoEnv) (csumData : Blob) (obj : AdbObj)
    (val : Blob) (distinct : env.repoCommit ≠ env.uniqueId) :
    adbWoPkginfo env csumData obj env.repoCommit val =
      match apkBlobPullHexdump 20 val with
      | some (bytes, _) => { obj with db := (obj.db.adbWBlob bytes).2 }.adbWoVal
          env.repoCommit (obj.db.adbWBlob bytes).1
      | none => (.error env.eapkformat, obj) := by
  simp only [adbWoPkginfo, if_neg distinct, if_true]
  rcases dump : apkBlobPullHexdump 20 val with _ | ⟨bytes, rest⟩
  · split_ifs <;> simp [pkginfoStore, Handle.isError, dump]
  · have long : ¬ val.length < 40 := fun short => by
      rw [(apkBlobPullHexdump_eq_none 20 val).mpr (.inl short)] at dump
      cases dump
    simp only [long, if_false, pkginfoStore_adbWBlob obj _ bytes (bytes_ne_nil_of_dump dump)]

/-- For unique-id, every `val` of four bytes or more sets the field to the masked first
32 bits of `csum.data`, whatever `apk_blob_pull_csum` made of `val`: the result is never an
error, and where the pull decoded nothing it comes from what `csum.data` held on entry. -/
theorem adb_wo_pkginfo_unique_id_unchecked (env : PkgInfoEnv) (csumData : Blob)
    (obj : AdbObj) (val : Blob) (long : 4 ≤ val.length) :
    ∃ x : Fin (2 ^ 28), x.val = getUnaligned32 (env.pullCsum val csumData).2 &&& adbValueMask ∧
      adbWoPkginfo env csumData obj env.uniqueId val = obj.adbWoVal env.uniqueId (.int x) := by
  obtain ⟨x, hx, inline⟩ := adbWInt_masked obj.db (getUnaligned32 (env.pullCsum val csumData).2)
  refine ⟨x, hx, ?_⟩
  simp [adbWoPkginfo, if_neg (show ¬ val.length < 4 by omega), inline, pkginfoStore,
    Handle.isError]

/-- The object builder before any field is set. -/
def AdbObj.empty : AdbObj := ⟨Adb.empty, fun _ => .null⟩

/-- Unique-id and repo-commit at their places in `schema_pkginfo` (counted from 1), and an
`apk_blob_pull_csum` that decodes no text and leaves `csum.data` as it was. -/
def rejectingEnv : PkgInfoEnv :=
  ⟨3, 10, 0, fun _ data => (none, data), fun obj _ _ => (.null, obj)⟩

theorem adb_wo_pkginfo_unique_id_from_stack :
    (∃ x : Fin (2 ^ 28), x.val = 0x1414141 ∧
      adbWoPkginfo rejectingEnv "AAAA".toList .empty 3 "!!!!".toList =
        AdbObj.empty.adbWoVal 3 (.int x)) ∧
    (∃ x : Fin (2 ^ 28), x.val = 0x2424242 ∧
      adbWoPkginfo rejectingEnv "BBBB".toList .empty 3 "!!!!".toList =
        AdbObj.empty.adbWoVal 3 (.int x)) := by
  constructor
  all_goals
    obtain ⟨x, hx, run⟩ :=
      adb_wo_pkginfo_unique_id_unchecked rejectingEnv _ .empty "!!!!".toList (by decide)
    exact ⟨x, hx.trans (by decide), run⟩

/-- For repo-commit, `adb_wo_pkginfo` fails, leaving the object as it was, exactly when
`val` is shorter than 40 bytes or one of its first 40 is not a hex digit; otherwise it
sets that field, and no other, to a blob that reads back as the 20 bytes the digits spell. -/
theorem adb_wo_pkginfo_repo_commit (env : PkgInfoEnv) (csumData : Blob) (obj : AdbObj)
    (val : Blob) (r : Handle × AdbObj) (distinct : env.repoCommit ≠ env.uniqueId)
    (run : adbWoPkginfo env csumData obj env.repoCommit val = r) :
    (r.1.isError = true ↔ val.length < 40 ∨ ∃ c ∈ val.take 40, hexValue c = none) ∧
      (r.1.isError = true → r.2 = obj) ∧
      (r.1.isError = false →
        (∀ g, g ≠ env.repoCommit → r.2.fields g = obj.fields g) ∧
          r.2.db.adbRBlob (r.2.fields env.repoCommit) =
            (apkBlobPullHexdump 20 val).map Prod.fst) := by
  subst run
  have fails := apkBlobPullHexdump_eq_none 20 val
  rw [adbWoPkginfo_repoCommit_eq env csumData obj val distinct]
  rcases dump : apkBlobPullHexdump 20 val with _ | ⟨bytes, rest⟩
  · simpa [Handle.isError, dump] using fails
  · have nonempty : bytes ≠ [] := bytes_ne_nil_of_dump dump
    have readback := obj.db.adbRBlob_adbWBlob bytes
    refine ⟨?_, ?_, fun _ => ⟨fun g ne => Function.update_noteq ne _ _, ?_⟩⟩ <;>
      simp_all [AdbObj.adbWoVal, Adb.adbWBlob_not_error]

theorem adb_wo_pkginfo_repo_commit_hex :
    (adbWoPkginfo rejectingEnv [] .empty 10
        "0123456789abcdef0123456789ABCDEF01234567".toList).2.db.adbRBlob
      ((adbWoPkginfo rejectingEnv [] .empty 10
        "0123456789abcdef0123456789ABCDEF01234567".toList).2.fields 10) =
      (apkBlobPullHexdump 20 "0123456789abcdef0123456789ABCDEF01234567".toList).map Prod.fst :=
  ((adb_wo_pkginfo_repo_commit rejectingEnv [] .empty
    "0123456789abcdef0123456789ABCDEF01234567".toList _ (by decide) rfl).2.2 (by decide)).2

end ApkTools
