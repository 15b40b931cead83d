import Mathlib

/-! The gunzip input stream of gunzip.c. `gzi_read` is modelled loop turn by loop turn
over a state that holds the fields of `struct apk_gzip_istream` it reads and writes,
with pointers into the compressed input as offsets. What lies outside gunzip.c is an
environment: the stream underneath (`apk_istream_get_all`), zlib (`inflate`,
`inflateInit2`) and the multipart callback. Inflate is an oracle whose every answer
carries zlib's contract, so the results hold for every inflate that keeps it. -/
namespace ApkTools.Gunzip

/-- `APK_MPART_DATA`, `APK_MPART_BOUNDARY` and `APK_MPART_END`. -/
inductive Mpart
  | data
  | boundary
  | endOfStream
  deriving DecidableEq, Repr

/-- One call through `gis->cb`: the event and the blob passed, `none` for
`APK_BLOB_NULL` and otherwise its offset in the compressed input and its length, with
the bytes inflate had consumed and the error state when the call was made. -/
structure Call where
  event : Mpart
  arg : Option (Nat × Nat)
  consumed : Nat
  err : Int
  deriving DecidableEq, Repr

/-- `ECANCELED`, `EIO` and `ENOMEM` of Linux. -/
def ecanceled : Int := 125
def eio : Int := 5
def enomem : Int := 12

theorem neg_eio_ne_zero : -eio ≠ 0 := by decide

/-- A gzip member of the compressed input as inflate sees it: its length in the input,
header and trailer included, and the bytes it inflates to. Inflate may fail on a member
that is not `valid` gzip data. -/
structure Member (β : Type) where
  size : Nat
  data : List β
  valid : Bool
  size_pos : 0 < size

/-- The member that starts `pos` bytes into the input. -/
def memberAt {β : Type} : List (Member β) → Nat → Option (Member β)
  | [], _ => none
  | m :: ms, pos =>
    if pos = 0 then some m else if m.size ≤ pos then memberAt ms (pos - m.size) else none

/-- The length of the members in the input. -/
def totalSize {β : Type} (ms : List (Member β)) : Nat := (ms.map Member.size).sum

/-- The bytes the members inflate to, one after the other. -/
def inflated {β : Type} (ms : List (Member β)) : List β := (ms.map Member.data).flatten

/-- `pos` is where a member starts, or the end of the last one. -/
def MemberStart {β : Type} (ms : List (Member β)) (pos : Nat) : Prop :=
  ∃ pre post, ms = pre ++ post ∧ pos = totalSize pre

/-- `pos` is where a member ends. -/
def MemberEnd {β : Type} (ms : List (Member β)) (pos : Nat) : Prop :=
  ∃ pre m post, ms = pre ++ m :: post ∧ pos = totalSize pre + m.size

section Members
variable {β : Type}

@[simp] theorem totalSize_nil : totalSize ([] : List (Member β)) = 0 := rfl

@[simp] theorem totalSize_cons (m : Member β) (ms : List (Member β)) :
    totalSize (m :: ms) = m.size + totalSize ms := rfl

@[simp] theorem totalSize_append (ms ns : List (Member β)) :
    totalSize (ms ++ ns) = totalSize ms + totalSize ns := by
  simp [totalSize]

@[simp] theorem inflated_append (ms ns : List (Member β)) :
    inflated (ms ++ ns) = inflated ms ++ inflated ns := by
  simp [inflated]

@[simp] theorem inflated_nil : inflated ([] : List (Member β)) = [] := rfl

@[simp] theorem inflated_cons (m : Member β) (ms : List (Member β)) :
    inflated (m :: ms) = m.data ++ inflated ms := rfl

theorem memberAt_append (pre post : List (Member β)) :
    memberAt (pre ++ post) (totalSize pre) = post.head? := by
  induction pre with
  | nil => cases post <;> rfl
  | cons m pre ih =>
    have pos := m.size_pos
    show memberAt (m :: (pre ++ post)) (m.size + totalSize pre) = _
    rw [memberAt, if_neg (by omega), if_pos (by omega), Nat.add_sub_cancel_left, ih]

/-- The member inflate finds at a member start. -/
theorem memberAt_start {ms : List (Member β)} {pos : Nat} {m : Member β}
    (start : MemberStart ms pos) (found : memberAt ms pos = some m) :
    ∃ pre post, ms = pre ++ m :: post ∧ pos = totalSize pre := by
  obtain ⟨pre, post, rfl, rfl⟩ := start
  rw [memberAt_append] at found
  cases post with
  | nil => cases found
  | cons n post => exact ⟨pre, post, by cases found; rfl, rfl⟩

theorem memberEnd_start {ms pre post : List (Member β)} {m : Member β}
    (split : ms = pre ++ m :: post) : MemberStart ms (totalSize pre + m.size) :=
  ⟨pre ++ [m], post, by simp [split], by simp⟩

end Members

/-- The stream under the gunzip stream, as `apk_istream_get_all(gis->zis)` hands it
out: the lengths of its non-empty blobs, then its end, `0` for end of file or a negative
errno. `early` says that `zis->err` is already set when the last blob is handed out. -/
structure Source where
  chunks : List Nat
  fin : Int
  early : Bool
  chunks_pos : ∀ n ∈ chunks, 0 < n
  fin_le : fin ≤ 0

/-- What `apk_istream_get_all` returns: a blob of the input, or the pointerless blob
whose length is 0 at end of file and a negative errno after an error. -/
inductive Got
  | chunk (pos len : Nat)
  | done (len : Int)
  deriving DecidableEq, Repr

/-- Where the `k`-th blob starts in the input. -/
def Source.offset (src : Source) (k : Nat) : Nat := (src.chunks.take k).sum

/-- `zis->err` once it has ended: 1 at end of file, else the error. -/
def Source.endErr (src : Source) : Int := if src.fin < 0 then src.fin else 1

/-- `zis->err` after `k` calls of `apk_istream_get_all`. -/
def Source.errAfter (src : Source) (k : Nat) : Int :=
  if src.chunks.length < k ∨ (src.early ∧ k = src.chunks.length) then src.endErr else 0

theorem Source.errAfter_ne_zero {src : Source} {k : Nat} (h : src.errAfter k ≠ 0) :
    src.chunks.length ≤ k ∧ src.errAfter k = src.endErr := by
  unfold errAfter at h ⊢
  split at h
  · rename_i past
    rw [if_pos past]
    rcases past with past | ⟨-, past⟩ <;> exact ⟨by omega, rfl⟩
  · exact absurd rfl h

/-- The `k`-th call of `apk_istream_get_all(gis->zis)`. -/
def Source.getAll (src : Source) (k : Nat) : Got :=
  match src.chunks[k]? with
  | some len => .chunk (src.offset k) len
  | none => .done src.fin

theorem Source.getAll_eq_chunk {src : Source} {k pos len : Nat}
    (h : src.getAll k = .chunk pos len) :
    k < src.chunks.length ∧ pos = src.offset k ∧ src.offset (k + 1) = pos + len ∧ 0 < len := by
  unfold getAll at h
  split at h
  · rename_i found
    cases h
    obtain ⟨lt, rfl⟩ := List.getElem?_eq_some_iff.mp found
    exact ⟨lt, rfl, List.sum_take_succ _ _ lt, src.chunks_pos _ (List.getElem_mem lt)⟩
  · cases h

theorem Source.getAll_eq_done {src : Source} {k : Nat} {len : Int} (h : src.getAll k = .done len) :
    src.chunks.length ≤ k ∧ len = src.fin := by
  unfold getAll at h
  split at h
  · cases h
  · rename_i absent
    cases h
    exact ⟨List.getElem?_eq_none_iff.mp absent, rfl⟩

theorem Source.offset_length (src : Source) : src.offset src.chunks.length = src.chunks.sum := by
  simp [offset]

theorem Source.offset_le (src : Source) (k : Nat) : src.offset k ≤ src.chunks.sum := by
  have := List.sum_take_add_sum_drop src.chunks k
  unfold offset
  omega

/-- What zlib promises of one call `inflate(&zs, Z_NO_FLUSH)` on member `m`, of which
`c` bytes were consumed and `p` produced, with `a` bytes of input and `o` bytes of room:
it consumes and produces within both, the call that consumes the member's last byte
(its trailer) has produced all of its data, it fails only on data that is not gzip,
and with input and room it makes progress. -/
structure Inflate {β : Type} (m : Member β) (c p a o : Nat) where
  used : Nat
  made : Nat
  fail : Bool
  used_le : used ≤ a
  used_le_rest : used ≤ m.size - c
  made_le : made ≤ o
  made_le_rest : made ≤ m.data.length - p
  trailer : 0 < used → c + used = m.size → m.data.length ≤ p + made
  fail_valid : m.valid = true → fail = false
  progress : fail = false → 0 < a → 0 < o → c < m.size → 0 < used + made

/-- The world `gzi_read` runs in: the compressed input as gzip members, the stream
underneath, inflate (given the number of calls so far), whether each `inflateInit2`
after a member succeeds, and the callback's answer given the calls before. -/
structure Env (β : Type) where
  members : List (Member β)
  src : Source
  inflate : Nat → (m : Member β) → (c p a o : Nat) → Inflate m c p a o
  reinit : Nat → Bool
  cb : List Call → Call → Int

/-- The fields of `struct apk_gzip_istream` that `gzi_read` uses, the state of inflate
(where its member starts, what it has produced of it, whether it is initialised), and
what callers and the callback have been given. -/
structure Gis (β : Type) where
  err : Int
  availIn : Nat
  nextIn : Nat
  availOut : Nat
  start : Nat
  made : Nat
  live : Bool
  cb : Bool
  cbprev : Option Nat
  cbarg : Option (Nat × Nat)
  taken : Nat
  out : List β
  calls : List Call
  inflates : Nat

/-- How a part of the loop body ends: on to what follows, `goto ret`, or
`return -ENOMEM`. -/
inductive Pass (β : Type)
  | next (s : Gis β)
  | ret (s : Gis β)
  | enomem (s : Gis β)

def Pass.bind {β : Type} : Pass β → (Gis β → Pass β) → Pass β
  | .next s, f => f s
  | p, _ => p

/-- The state a part of the loop body ends in satisfies `next` if the loop body goes on,
and `done` if it leaves the loop. -/
def Pass.Ends {β : Type} (next done : Gis β → Prop) : Pass β → Prop
  | .next s => next s
  | .ret s => done s
  | .enomem s => done s

theorem Pass.ends_bind {β : Type} {p : Pass β} {f : Gis β → Pass β}
    {next next' done : Gis β → Prop} (hp : p.Ends next done)
    (hf : ∀ s, next s → (f s).Ends next' done) :
    (p.bind f).Ends next' done := by
  cases p with
  | next s => exact hf s hp
  | ret s => exact hp
  | enomem s => exact hp

theorem Pass.Ends.mono {β : Type} {p : Pass β} {next done next' done' : Gis β → Prop}
    (h : p.Ends next done) (hn : ∀ s, next s → next' s) (hd : ∀ s, done s → done' s) :
    p.Ends next' done' := by
  cases p with
  | next s => exact hn s h
  | ret s => exact hd s h
  | enomem s => exact hd s h

theorem Pass.bind_eq_ret {β : Type} {p : Pass β} {f : Gis β → Pass β} {g : Gis β}
    (h : p.bind f = .ret g) : p = .ret g ∨ ∃ s, p = .next s ∧ f s = .ret g := by
  cases p with
  | next s => exact .inr ⟨s, rfl, h⟩
  | ret s => exact .inl h
  | enomem s => cases h

theorem Pass.bind_eq_enomem {β : Type} {p : Pass β} {f : Gis β → Pass β} {g : Gis β}
    (h : p.bind f = .enomem g) : p = .enomem g ∨ ∃ s, p = .next s ∧ f s = .enomem g := by
  cases p with
  | next s => exact .inr ⟨s, rfl, h⟩
  | ret s => cases h
  | enomem s => exact .inl h

section
variable {β : Type} (env : Env β)

/-- What `gzi_boundary_change` makes of the callback's answer: `-ECANCELED` for a
positive one. -/
def cbStatus (r : Int) : Int := if r > 0 then -ecanceled else r

/-- `gzi_boundary_change(gis)`: BOUNDARY, or END once the stream has an error state. -/
def gziBoundaryChange (s : Gis β) : Int × Gis β :=
  let call : Call := ⟨if s.err ≠ 0 then .endOfStream else .boundary, s.cbarg, s.nextIn, s.err⟩
  let r := cbStatus (env.cb s.calls call)
  (r, { s with calls := s.calls ++ [call], err := if r ≠ 0 then r else s.err })

/-- `gzi_boundary_change` never clears an error state. -/
theorem gziBoundaryChange_err_ne {s : Gis β} (stop : s.err ≠ 0) :
    (gziBoundaryChange env s).2.err ≠ 0 := by
  simp only [gziBoundaryChange]
  generalize cbStatus _ = r
  by_cases r = 0 <;> simp [*]

/-- The pending boundary at the top of the loop. -/
def gziPending (s : Gis β) : Pass β :=
  match s.cbarg with
  | none => .next s
  | some _ =>
    let (r, s) := gziBoundaryChange env s
    if r ≠ 0 then .ret s else .next { s with cbarg := none }

/-- The DATA call before a new blob is fetched; its return value is not looked at. -/
def gziData (s : Gis β) : Gis β :=
  match s.cbprev with
  | some p =>
    if s.cb ∧ p < s.nextIn then
      { s with calls := s.calls ++ [⟨.data, some (p, s.nextIn - p), s.nextIn, s.err⟩] }
    else s
  | none => s

/-- The DATA call adds a call and changes nothing else. -/
theorem gziData_calls (s : Gis β) : ∃ new, gziData s = { s with calls := s.calls ++ new } := by
  unfold gziData
  split
  · split
    · exact ⟨_, rfl⟩
    · exact ⟨[], by simp⟩
  · exact ⟨[], by simp⟩

/-- `if (gis->zs.avail_in == 0) { ... }`: fetch the next blob. At the end of the stream
underneath, `next_in` is pointed at the pointerless blob; it is not read again, since
the error state is set, and is left as it was here. -/
def gziRefill (s : Gis β) : Pass β :=
  if s.availIn ≠ 0 then .next s
  else
    let s := gziData s
    match env.src.getAll s.taken with
    | .chunk pos len =>
      .next { s with taken := s.taken + 1, cbprev := some pos, availIn := len, nextIn := pos }
    | .done len =>
      let s := { s with taken := s.taken + 1, cbprev := none, availIn := (len % 2 ^ 32).toNat }
      if len < 0 then .ret { s with err := len }
      else .ret (gziBoundaryChange env { s with err := 1, cbarg := none }).2

/-- `case Z_STREAM_END:` -/
def gziStreamEnd (s : Gis β) : Pass β :=
  let s := if env.src.errAfter s.taken ≠ 0 ∧ s.availIn = 0 then
    { s with err := env.src.errAfter s.taken } else s
  let s := if s.cb then
    { s with cbarg := s.cbprev.map fun p => (p, s.nextIn - p), cbprev := some s.nextIn } else s
  if s.err ≠ 0 then .ret (gziBoundaryChange env s).2
  else if env.reinit s.inflates then
    let s := { s with start := s.nextIn, made := 0 }
    if s.cb then .ret s else .next s
  else .enomem { s with live := false }

/-- `r = inflate(&gis->zs, Z_NO_FLUSH)` and the `switch` on it. Past the last member, or
after a failed `inflateInit2`, inflate fails. -/
def gziInflate (s : Gis β) : Pass β :=
  match s.live, memberAt env.members s.start with
  | true, some m =>
    let r := env.inflate s.inflates m (s.nextIn - s.start) s.made s.availIn s.availOut
    let s' := { s with
      availIn := s.availIn - r.used, nextIn := s.nextIn + r.used,
      availOut := s.availOut - r.made, made := s.made + r.made,
      out := s.out ++ (m.data.drop s.made).take r.made, inflates := s.inflates + 1 }
    if r.fail then .next { s' with err := -eio }
    else if s.nextIn - s.start + r.used = m.size then gziStreamEnd env s'
    else .next s'
  | _, _ => .next { s with err := -eio, inflates := s.inflates + 1 }

/-- The stream after inflate consumed `used` bytes of member `m` and made `made`. -/
@[simps]
def Gis.consume (s : Gis β) (m : Member β) (used made : Nat) : Gis β :=
  { s with
    availIn := s.availIn - used, nextIn := s.nextIn + used,
    availOut := s.availOut - made, made := s.made + made,
    out := s.out ++ (m.data.drop s.made).take made, inflates := s.inflates + 1 }

/-- A call of inflate, by its outcome: on the member at `start`, with inflate initialised,
it consumes and makes what zlib's contract allows, then has failed, has reached the
member's end, or goes on; otherwise it fails. -/
theorem gziInflate_cases (s : Gis β) :
    (∃ m, ∃ r : Inflate m (s.nextIn - s.start) s.made s.availIn s.availOut,
      s.live = true ∧ memberAt env.members s.start = some m ∧
      gziInflate env s =
        if r.fail then .next { s.consume m r.used r.made with err := -eio }
        else if s.nextIn - s.start + r.used = m.size then
          gziStreamEnd env (s.consume m r.used r.made)
        else .next (s.consume m r.used r.made)) ∨
    ((∀ m, s.live = true → memberAt env.members s.start ≠ some m) ∧
      gziInflate env s = .next { s with err := -eio, inflates := s.inflates + 1 }) := by
  unfold gziInflate
  split
  · exact .inl ⟨_, _, ‹_›, ‹_›, rfl⟩
  · exact .inr ⟨‹_›, rfl⟩

/-- One turn of the loop body of `gzi_read`. -/
def gziPass (s : Gis β) : Pass β :=
  (gziPending env s).bind fun s => (gziRefill env s).bind (gziInflate env)

end

/-- Where the caller is: between reads, or inside `gzi_read(is, ptr, size)`. -/
inductive Phase
  | idle
  | reading (size : Nat)
  deriving DecidableEq, Repr

/-- The stream with its caller, and what each finished `gzi_read` returned. -/
structure Machine (β : Type) where
  gis : Gis β
  phase : Phase
  results : List Int

/-- `apk_istream_gunzip_mpart(is, cb, ctx)`: a zeroed stream, `inflateInit2` done. -/
def gziOpen {β : Type} (cb : Bool) : Machine β :=
  ⟨⟨0, 0, 0, 0, 0, 0, true, cb, none, none, 0, [], [], 0⟩, .idle, []⟩

/-- The start of `gzi_read(is, ptr, size)`: `avail_out = size`, into zlib's 32-bit
`uInt`. -/
def Machine.read {β : Type} (m : Machine β) (size : Nat) : Machine β :=
  ⟨{ m.gis with availOut := size % 2 ^ 32 }, .reading size, m.results⟩

/-- The `while` test and one turn of the loop of the read in progress, or its return
`size - avail_out`. -/
def Machine.advance {β : Type} (env : Env β) (m : Machine β) : Machine β :=
  match m.phase with
  | .idle => m
  | .reading size =>
    if m.gis.availOut ≠ 0 ∧ m.gis.err = 0 then
      match gziPass env m.gis with
      | .next g => ⟨g, .reading size, m.results⟩
      | .ret g => ⟨g, .idle, m.results ++ [(size : Int) - g.availOut]⟩
      | .enomem g => ⟨g, .idle, m.results ++ [-enomem]⟩
    else ⟨m.gis, .idle, m.results ++ [(size : Int) - m.gis.availOut]⟩

/-- A caller starts a read of any size between reads, and a read in progress moves on. -/
inductive Step {β : Type} (env : Env β) : Machine β → Machine β → Prop
  | read (m : Machine β) (size : Nat) (idle : m.phase = .idle) : Step env m (m.read size)
  | advance (m : Machine β) : Step env m (m.advance env)

inductive Reachable {β : Type} (env : Env β) (cb : Bool) : Machine β → Prop
  | start : Reachable env cb (gziOpen cb)
  | next {m m' : Machine β} : Reachable env cb m → Step env m m' → Reachable env cb m'

/-- An invariant of the stream that holds when it is opened, does not look at the room
of the read, and is kept by every turn of the loop, holds in every reachable state. -/
theorem reachable_invariant {β : Type} {env : Env β} {cb : Bool} (I : Gis β → Prop)
    (init : I (gziOpen (β := β) cb).gis) (room : ∀ s n, I s → I { s with availOut := n })
    (pass : ∀ s, I s → s.err = 0 → (gziPass env s).Ends I I)
    {m : Machine β} (reach : Reachable env cb m) : I m.gis := by
  induction reach with
  | start => exact init
  | next _ step ih =>
    cases step with
    | read size _ => exact room _ _ ih
    | advance =>
      unfold Machine.advance
      split
      · exact ih
      · split
        · rename_i going
          have ends := pass _ ih going.2
          split <;> rename_i pass <;> rw [pass] at ends <;> exact ends
        · exact ih

/-- The read in progress, run to its return within `fuel` turns of its loop. -/
def Machine.settle {β : Type} (env : Env β) : Nat → Machine β → Machine β
  | 0, m => m
  | fuel + 1, m =>
    match m.phase with
    | .idle => m
    | .reading _ => Machine.settle env fuel (m.advance env)

/-- A caller's `gzi_read(is, ptr, size)`, within `fuel` turns of its loop. -/
def Machine.gziRead {β : Type} (env : Env β) (fuel size : Nat) (m : Machine β) : Machine β :=
  (m.read size).settle env fuel

theorem reachable_settle {β : Type} {env : Env β} {cb : Bool} {m : Machine β}
    (reach : Reachable env cb m) (fuel : Nat) : Reachable env cb (m.settle env fuel) := by
  induction fuel generalizing m with
  | zero => exact reach
  | succ fuel ih =>
    simp only [Machine.settle]
    split
    · exact reach
    · exact ih (reach.next (.advance m))

theorem reachable_gziRead {β : Type} {env : Env β} {cb : Bool} {m : Machine β}
    (reach : Reachable env cb m) (idle : m.phase = .idle) (fuel size : Nat) :
    Reachable env cb (m.gziRead env fuel size) :=
  reachable_settle (reach.next (.read m size idle)) fuel

/-- An inflate that keeps zlib's contract and makes all the progress it can: it fills
the room it has, and consumes all the input it has except the member's last byte while
data of the member is still to come. -/
def greedy {β : Type} (m : Member β) (c p a o : Nat) : Inflate m c p a o where
  used := if m.data.length ≤ p + min o (m.data.length - p) then min a (m.size - c)
    else min a (m.size - c - 1)
  made := min o (m.data.length - p)
  fail := false
  used_le := by split <;> omega
  used_le_rest := by split <;> omega
  made_le := by omega
  made_le_rest := by omega
  trailer := by split <;> omega
  fail_valid := fun _ => rfl
  progress := by split <;> omega

end ApkTools.Gunzip
