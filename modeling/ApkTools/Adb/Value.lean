import Mathlib
import ApkTools.Blob

/-! Values and pools of a database, as the scalar schemas of `apk_adb.c` use them. adb.c
is not among the sources: a handle, the two pools the scalars reach, and the accessors
`adb_r_int`, `adb_r_blob`, `adb_w_int` and `adb_w_blob` are modelled from §3, §4.1 and
§9 of the spec. -/
namespace ApkTools

/-- Modelled from the spec: an `adb_val_t`, a kind and a 28-bit payload (§4.1, §9): an
integer that fits the payload, or the index of an entry of one of the database's pools. -/
inductive Handle
  | null
  | error (code : Nat)
  | int (n : Fin (2 ^ 28))
  | int32 (ix : Nat)
  | blob (ix : Nat)
  | object (ix : Nat)
  | array (ix : Nat)
  deriving DecidableEq, Repr

/-- `ADB_IS_ERROR(v)`. -/
def Handle.isError : Handle → Bool
  | .error _ => true
  | _ => false

/-- `ADB_VALUE_MASK`, the payload bits of a handle. -/
def adbValueMask : Nat := 0x0fffffff

/-- Modelled from the spec: `struct adb`, with the pools the scalar schemas reach: the
32-bit integers that did not fit inline and the blobs, each found by its index (§4.1). -/
structure Adb where
  ints : List Nat
  blobs : List Blob
  ints_lt : ∀ n ∈ ints, n < 2 ^ 32

/-- A database with empty pools. -/
def Adb.empty : Adb := ⟨[], [], fun _ h => nomatch h⟩

theorem getElem?_of_indexOf? {α : Type} [BEq α] [LawfulBEq α] {l : List α} {a : α} {i : Nat}
    (h : l.indexOf? a = some i) : l[i]? = some a := by
  have found := List.findIdx?_of_eq_some h
  split at found
  · rename_i b hb
    rw [hb, eq_of_beq found]
  · cases found

namespace Adb

/-- Modelled from the spec: `adb_r_int(db, v)`, the `uint32_t` a handle holds inline or
in the int pool; 0 for any other handle, and for an index past the pool. -/
def adbRInt (db : Adb) : Handle → Nat
  | .int n => n
  | .int32 ix => db.ints.getD ix 0
  | _ => 0

/-- Modelled from the spec: `adb_r_blob(db, v)`, the blob a handle refers to; `none`,
for `APK_BLOB_NULL`, for any other handle and for an index past the pool. -/
def adbRBlob (db : Adb) : Handle → Option Blob
  | .blob ix => db.blobs[ix]?
  | _ => none

/-- Modelled from the spec: `adb_w_int(db, val)` of a `uint32_t`: inline when it fits the
payload, else in the int pool, where equal integers share one entry. -/
def adbWInt (db : Adb) (val : Nat) : Handle × Adb :=
  let val := val % 2 ^ 32
  if h : val < 2 ^ 28 then (.int ⟨val, h⟩, db)
  else match db.ints.indexOf? val with
    | some ix => (.int32 ix, db)
    | none => (.int32 db.ints.length, { db with
        ints := db.ints ++ [val]
        ints_lt := fun n mem => by
          rcases List.mem_append.mp mem with old | new
          · exact db.ints_lt n old
          · rw [List.mem_singleton.mp new]
            exact Nat.mod_lt _ (by decide) })

/-- Modelled from the spec: `adb_w_blob(db, b)`: `ADB_NULL` for an empty blob, else an
entry of the blob pool, where equal blobs share one entry (§3). -/
def adbWBlob (db : Adb) (b : Blob) : Handle × Adb :=
  if b = [] then (.null, db)
  else match db.blobs.indexOf? b with
    | some ix => (.blob ix, db)
    | none => (.blob db.blobs.length, { db with blobs := db.blobs ++ [b] })

@[simp] theorem adbRInt_int (db : Adb) (n : Fin (2 ^ 28)) : db.adbRInt (.int n) = n := rfl

/-- An inline integer reads the same in every database. -/
theorem adbRInt_inline (db db' : Adb) (n : Fin (2 ^ 28)) :
    db.adbRInt (.int n) = db'.adbRInt (.int n) := rfl

/-- An integer that fits the payload is stored inline and leaves the pools alone. -/
theorem adbWInt_inline (db : Adb) (x : Fin (2 ^ 28)) : db.adbWInt x = (.int x, db) := by
  have narrow : x.val % 2 ^ 32 = x.val := Nat.mod_eq_of_lt (by omega)
  unfold adbWInt
  simp only [narrow, dif_pos x.isLt]

theorem adbWInt_not_error (db : Adb) (val : Nat) : (db.adbWInt val).1.isError = false := by
  unfold adbWInt
  dsimp only
  split
  · rfl
  · split <;> rfl

theorem adbWBlob_not_error (db : Adb) (b : Blob) : (db.adbWBlob b).1.isError = false := by
  unfold adbWBlob
  split
  · rfl
  · split <;> rfl

/-- What `adb_w_int` writes reads back as the `uint32_t` it was given. -/
theorem adbRInt_adbWInt (db : Adb) (val : Nat) :
    (db.adbWInt val).2.adbRInt (db.adbWInt val).1 = val % 2 ^ 32 := by
  unfold adbWInt
  dsimp only
  split
  · rfl
  · split
    · rename_i ix found
      simp [adbRInt, getElem?_of_indexOf? found]
    · simp [adbRInt]

/-- What `adb_w_blob` writes reads back, an empty blob as `APK_BLOB_NULL`. -/
theorem adbRBlob_adbWBlob (db : Adb) (b : Blob) :
    (db.adbWBlob b).2.adbRBlob (db.adbWBlob b).1 = if b = [] then none else some b := by
  unfold adbWBlob
  split
  · rfl
  · split
    · rename_i ix found
      simp [adbRBlob, getElem?_of_indexOf? found, *]
    · simp [adbRBlob, *]

end Adb

end ApkTools
