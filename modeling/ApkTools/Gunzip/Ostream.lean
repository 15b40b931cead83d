import ApkTools.Gunzip.Model

/-! The gzip output stream of gunzip.c: `gzo_write` and `gzo_close` over the stream that
`apk_ostream_gzip` opens. What lies outside gunzip.c is given: zlib's `deflate`, an oracle
on an abstract state whose answers keep zlib's contract, and the stream written to. The
contract carries ghost projections of zlib's state, what it has consumed and produced since
`deflateInit2`, so the data flow of the stream is stated without modelling compression.

* `gzo_write_returns`: every write returns, `size` or `-EIO`, and `size` when zlib reports
  no stream error and the stream underneath takes every write;
* `gzo_write_forwards`: a write that returns its size has handed zlib its bytes, in order,
  as many as zlib's 32-bit `avail_in` holds (`size % 2 ^ 32`), and the stream underneath all
  that zlib produced, in non-empty chunks, each taken in full;
* `gzo_close_result`: every close returns, and returns the error of `apk_ostream_close`,
  else `-EIO` after a short write, else 0; what `deflate` answers is never reported;
* `gzip_session`: from the stream `apk_ostream_gzip` opens, writes that all return their
  sizes and a close that returns 0 have handed the stream underneath the gzip encoding of
  what zlib was handed, everything written when each write is under 4 GiB, when zlib's
  finishing calls do not fail.

Both loops end on the input left, and then on the output zlib still holds back. -/
namespace ApkTools.Gunzip

/-- `Z_OK`, `Z_STREAM_END` and `Z_STREAM_ERROR` of zlib. -/
def zOk : Int := 0
def zStreamEnd : Int := 1
def zStreamError : Int := -2

/-- The size of the buffer `gzo_write` and `gzo_close` deflate into. -/
def gzoBufferSize : Nat := 1024

/-- What one call `deflate(&zs, flush)` answers, with `avail_out = 1024`: how many bytes of
its input it consumed, the bytes it put in the buffer, its return code and its state after. -/
structure Deflated (β σ : Type) where
  used : Nat
  out : List β
  code : Int
  next : σ

/-- zlib's deflate as the gzip output stream uses it: `deflate s input finish` is the call
from state `s` with `input` at `next_in`, under `Z_FINISH` or `Z_NO_FLUSH`. `consumed` and
`produced` are what the stream has consumed and produced since `deflateInit2`, `held` what
it still holds back, and `gzip` the encoding of a whole input; `deflateInit2` is the state
that call sets up, or `none` when it fails. zlib promises that a fresh state has consumed
and produced nothing, that a call
consumes and produces within its input and buffer, and that it makes progress while it has
input to take (under `Z_NO_FLUSH`, unless it reports a stream error) or says there is more
to come (`Z_OK` under `Z_FINISH`): it consumes input or hands out output it held back. A
stream that has finished has produced the gzip encoding of all it consumed. -/
structure Zlib (β σ : Type) where
  deflate : σ → List β → Bool → Deflated β σ
  consumed : σ → List β
  produced : σ → List β
  held : σ → Nat
  gzip : List β → List β
  deflateInit2 : Option σ
  init_fresh : ∀ s, deflateInit2 = some s → consumed s = [] ∧ produced s = []
  used_le : ∀ s input finish, (deflate s input finish).used ≤ input.length
  out_le : ∀ s input finish, (deflate s input finish).out.length ≤ gzoBufferSize
  consumed_next : ∀ s input finish, consumed (deflate s input finish).next =
    consumed s ++ input.take (deflate s input finish).used
  produced_next : ∀ s input finish,
    produced (deflate s input finish).next = produced s ++ (deflate s input finish).out
  progress : ∀ s input, input ≠ [] → (deflate s input false).code ≠ zStreamError →
    0 < (deflate s input false).used ∨ held (deflate s input false).next < held s
  finish_progress : ∀ s input, (deflate s input true).code = zOk →
    0 < (deflate s input true).used ∨ held (deflate s input true).next < held s
  finished : ∀ s input, (deflate s input true).code = zStreamEnd →
    produced (deflate s input true).next = gzip (consumed (deflate s input true).next)

/-- zlib's finishing calls do not fail: they answer `Z_OK` or `Z_STREAM_END`. -/
def Zlib.FinishClean {β σ : Type} (z : Zlib β σ) : Prop :=
  ∀ s input, (z.deflate s input true).code = zOk ∨ (z.deflate s input true).code = zStreamEnd

/-- The stream `apk_ostream_gzip` writes to: what `apk_ostream_write(output, buf, have)`
returns given the writes before it, and what `apk_ostream_close(output)` returns given all
the writes. -/
structure Ostream (β : Type) where
  write : List (List β) → List β → Int
  close : List (List β) → Int

/-- The stream took each of `chunks`, written after `before`, in full. -/
def Ostream.Full {β : Type} (os : Ostream β) : List (List β) → List (List β) → Prop
  | _, [] => True
  | before, c :: cs => os.write before c = c.length ∧ os.Full (before ++ [c]) cs

/-- Whether the stream took each of `chunks` in full, computed. -/
def Ostream.decFull {β : Type} (os : Ostream β) :
    ∀ before chunks, Decidable (os.Full before chunks)
  | _, [] => isTrue trivial
  | before, c :: cs => @instDecidableAnd _ _ (Int.decEq _ _) (os.decFull (before ++ [c]) cs)

instance {β : Type} (os : Ostream β) (before chunks : List (List β)) :
    Decidable (os.Full before chunks) :=
  os.decFull before chunks

theorem Ostream.full_append {β : Type} (os : Ostream β) (before xs ys : List (List β)) :
    os.Full before (xs ++ ys) ↔ os.Full before xs ∧ os.Full (before ++ xs) ys := by
  induction xs generalizing before with
  | nil => simp [Ostream.Full]
  | cons c xs ih => simp [Ostream.Full, ih, and_assoc]

/-- zlib reports no stream error to a call without `Z_FINISH`. -/
def Zlib.NoStreamError {β σ : Type} (z : Zlib β σ) : Prop :=
  ∀ s input, (z.deflate s input false).code ≠ zStreamError

/-- The stream takes every write in full. -/
def Ostream.TakesAll {β : Type} (os : Ostream β) : Prop :=
  ∀ before c, os.write before c = c.length

/-- The fields of `struct apk_gzip_ostream` that `gzo_write` and `gzo_close` use: zlib's
state, the input that `next_in` and `avail_in` leave to deflate, and the chunks handed to
`apk_ostream_write`, in order. -/
structure Gos (β σ : Type) where
  zs : σ
  input : List β
  handed : List (List β)

section
variable {β σ : Type} (z : Zlib β σ) (os : Ostream β)

/-- One turn of the loop of `gzo_write`: `deflate(&zs, Z_NO_FLUSH)` into the buffer, then
the write of what it made, if anything. `some r` returns `r`; `none` goes on. -/
def gzoWriteTurn (g : Gos β σ) : Option Int × Gos β σ :=
  let d := z.deflate g.zs g.input false
  let g' := { g with zs := d.next, input := g.input.drop d.used }
  if d.code = zStreamError then (some (-eio), g')
  else if d.out.length ≠ 0 then
    (if os.write g.handed d.out ≠ d.out.length then some (-eio) else none,
      { g' with handed := g.handed ++ [d.out] })
  else (none, g')

/-- The loop `while (gos->zs.avail_in)` of `gzo_write` within `fuel` turns: what it
returns, `size` once the input is used up, or `none` when the fuel runs out. -/
def gzoWriteLoop (size : Int) : Nat → Gos β σ → Option (Int × Gos β σ)
  | 0, _ => none
  | fuel + 1, g =>
    if g.input.isEmpty then some (size, g)
    else match gzoWriteTurn z os g with
      | (some r, g) => some (r, g)
      | (none, g) => gzoWriteLoop size fuel g

/-- `gzo_write(os, ptr, size)` of the bytes `data`, within `fuel` turns of its loop:
`avail_in = size` keeps `size % 2 ^ 32` of them, zlib's `uInt`, and the write returns
`size`. -/
def gzoWrite (fuel : Nat) (g : Gos β σ) (data : List β) : Option (Int × Gos β σ) :=
  gzoWriteLoop z os data.length fuel { g with input := data.take (data.length % 2 ^ 32) }

/-- One turn of the loop of `gzo_close`: `deflate(&zs, Z_FINISH)` into the buffer, then
the write of what it made, nothing included; `rc` becomes `-EIO` on a short write. -/
def gzoCloseTurn (g : Gos β σ) (rc : Int) : Deflated β σ × Gos β σ × Int :=
  let d := z.deflate g.zs g.input true
  (d, ⟨d.next, g.input.drop d.used, g.handed ++ [d.out]⟩,
    if os.write g.handed d.out ≠ d.out.length then -eio else rc)

/-- The loop `do { ... } while (r == Z_OK)` of `gzo_close` within `fuel` turns, from the
error code `rc` so far. -/
def gzoCloseLoop : Nat → Gos β σ → Int → Option (Int × Gos β σ)
  | 0, _, _ => none
  | fuel + 1, g, rc =>
    match gzoCloseTurn z os g rc with
    | (d, g, rc) => if d.code = zOk then gzoCloseLoop fuel g rc else some (rc, g)

/-- `gzo_close(os)` within `fuel` turns of its loop: the loop, then
`apk_ostream_close(output)`, whose error replaces the code of the loop. -/
def gzoClose (fuel : Nat) (g : Gos β σ) : Option (Int × Gos β σ) :=
  (gzoCloseLoop z os fuel g 0).map fun (rc, g) =>
    (if os.close g.handed ≠ 0 then os.close g.handed else rc, g)

/-- A write in progress from `g` with the caller's bytes `data`: zlib has consumed a prefix
of them and `input` is the rest, and the stream underneath has been handed, and has taken in
full, what zlib produced, in non-empty chunks. -/
structure Forwarded (g : Gos β σ) (data : List β) (h : Gos β σ) : Prop where
  consumed : z.consumed h.zs ++ h.input = z.consumed g.zs ++ data
  handed : ∃ new, h.handed = g.handed ++ new ∧ z.produced h.zs = z.produced g.zs ++ new.flatten ∧
    (∀ c ∈ new, c ≠ []) ∧ os.Full g.handed new

/-- `apk_ostream_gzip(output)`, given the error `output` carries, if it is an error pointer
(`NULL` as 0), and whether `malloc` succeeds: the new stream, or the error pointer returned
with whether `output` was closed. -/
def apkOstreamGzip (output : Except Int Unit) (allocated : Bool) :
    Except (Int × Bool) (Gos β σ) :=
  match output with
  | .error e => .error (e, false)
  | .ok () =>
    if allocated then
      match z.deflateInit2 with
      | some s => .ok ⟨s, [], []⟩
      | none => .error (-enomem, true)
    else .error (-enomem, true)

/-- `gzo_write` of each of `datas` in turn, with what each returned. -/
def gzoWrites (fuel : Nat) (g : Gos β σ) : List (List β) → Option (List Int × Gos β σ)
  | [] => some ([], g)
  | data :: datas =>
    match gzoWrite z os fuel g data with
    | some (r, g) => (gzoWrites fuel g datas).map fun (rs, g) => (r :: rs, g)
    | none => none

end

section
variable {β σ : Type} {z : Zlib β σ} {os : Ostream β}

/-- A turn of `gzo_write` that goes on: zlib reported no stream error, the input advanced
past what it consumed, and what it made, if anything, was written in full. -/
theorem gzoWriteTurn_none {g g' : Gos β σ} {d : Deflated β σ}
    (hd : z.deflate g.zs g.input false = d) (h : gzoWriteTurn z os g = (none, g')) :
    d.code ≠ zStreamError ∧ g'.zs = d.next ∧ g'.input = g.input.drop d.used ∧
      (d.out = [] ∧ g'.handed = g.handed ∨
        d.out ≠ [] ∧ os.write g.handed d.out = d.out.length ∧ g'.handed = g.handed ++ [d.out]) := by
  unfold gzoWriteTurn at h
  rw [hd] at h
  dsimp only at h
  split_ifs at h with error made short <;> cases h
  · exact ⟨error, rfl, rfl, .inr ⟨by simpa using made, not_not.mp short, rfl⟩⟩
  · exact ⟨error, rfl, rfl, .inl ⟨by simpa using made, rfl⟩⟩

/-- A turn of `gzo_write` that returns returns `-EIO`: zlib reported a stream error, or
the stream underneath took less than it was given. -/
theorem gzoWriteTurn_some {g g' : Gos β σ} {r : Int} (h : gzoWriteTurn z os g = (some r, g')) :
    r = -eio ∧ (¬ z.NoStreamError ∨ ¬ os.TakesAll) := by
  unfold gzoWriteTurn at h
  dsimp only at h
  split_ifs at h with error made short <;> cases h
  · exact ⟨rfl, .inl fun none => none _ _ error⟩
  · exact ⟨rfl, .inr fun all => short (all _ _)⟩

theorem Forwarded.turn {g h h' : Gos β σ} {data : List β} (fw : Forwarded z os g data h)
    (turn : gzoWriteTurn z os h = (none, h')) : Forwarded z os g data h' := by
  obtain ⟨-, zs, input, out⟩ := gzoWriteTurn_none rfl turn
  obtain ⟨new, handed, produced, nonempty, full⟩ := fw.handed
  refine ⟨by rw [zs, input, z.consumed_next, List.append_assoc, List.take_append_drop,
    fw.consumed], ?_⟩
  rcases out with ⟨none, same⟩ | ⟨some, wrote, more⟩
  · exact ⟨new, same ▸ handed, by rw [zs, z.produced_next, none, List.append_nil, produced],
      nonempty, full⟩
  · refine ⟨new ++ [_], by rw [more, handed, List.append_assoc], ?_, ?_,
      (Ostream.full_append os _ _ _).mpr ⟨full, handed ▸ wrote, trivial⟩⟩
    · rw [zs, z.produced_next, produced]
      simp
    · simpa [or_imp, forall_and] using ⟨nonempty, some⟩

theorem gzoWriteLoop_forwards {g : Gos β σ} {data : List β} {size : Int} (nonneg : 0 ≤ size) :
    ∀ {fuel : Nat} {h h' : Gos β σ}, Forwarded z os g data h →
      gzoWriteLoop z os size fuel h = some (size, h') → Forwarded z os g data h' ∧ h'.input = []
  | 0, _, _, _, run => by cases run
  | fuel + 1, h, h', fw, run => by
    unfold gzoWriteLoop at run
    split at run
    · cases run
      exact ⟨fw, List.isEmpty_iff.mp ‹_›⟩
    · split at run
      · rename_i turn
        cases run
        have := (gzoWriteTurn_some turn).1
        simp [eio] at this
        omega
      · exact gzoWriteLoop_forwards nonneg (fw.turn ‹_›) run

/-- The loop of `gzo_write` returns, `size` or `-EIO`, and `size` whenever zlib reports no
stream error and the stream underneath takes every write: each turn that goes on consumes
input, or leaves it as it was and hands out output zlib held back. -/
theorem gzoWriteLoop_returns (size : Int) (g : Gos β σ) :
    ∃ fuel r g', gzoWriteLoop z os size fuel g = some (r, g') ∧ (r = size ∨ r = -eio) ∧
      (z.NoStreamError → os.TakesAll → r = size) := by
  induction' hn : g.input.length using Nat.strong_induction_on with n ihn generalizing g
  induction' hm : z.held g.zs using Nat.strong_induction_on with m ihm generalizing g
  cases empty : g.input.isEmpty
  · have input_ne : g.input ≠ [] := by simpa using empty
    rcases turn : gzoWriteTurn z os g with ⟨_ | r, g'⟩
    · obtain ⟨ok, zs, input, -⟩ := gzoWriteTurn_none rfl turn
      have le := z.used_le g.zs g.input false
      obtain ⟨fuel, r, g'', run, res⟩ :
          ∃ fuel r g'', gzoWriteLoop z os size fuel g' = some (r, g'') ∧ (r = size ∨ r = -eio) ∧
            (z.NoStreamError → os.TakesAll → r = size) := by
        by_cases used : 0 < (z.deflate g.zs g.input false).used
        · exact ihn _ (by rw [input, List.length_drop]; omega) g' rfl
        · have held := (z.progress g.zs g.input input_ne ok).resolve_left used
          have same : g'.input = g.input := by rw [input, Nat.eq_zero_of_not_pos used, List.drop_zero]
          exact ihm _ (by rw [← hm, zs]; exact held) g' (by rw [same, hn]) rfl
      exact ⟨fuel + 1, r, g'', by simp [gzoWriteLoop, empty, turn, run], res⟩
    · obtain ⟨eio, fails⟩ := gzoWriteTurn_some turn
      refine ⟨1, r, g', by simp [gzoWriteLoop, empty, turn], .inr eio, fun none all => ?_⟩
      exact (fails.elim (· none) (· all)).elim
  · exact ⟨1, size, g, by simp [gzoWriteLoop, empty], .inl rfl, fun _ _ => rfl⟩

/-- What the loop of `gzo_close` has done once it returns: it handed the stream underneath
every chunk zlib produced, empty ones too, with `-EIO` in place of `rc` after a short
write, and it stopped on a finishing call that did not answer `Z_OK`. -/
theorem gzoCloseLoop_result :
    ∀ {fuel : Nat} {g g' : Gos β σ} {rc rc' : Int}, gzoCloseLoop z os fuel g rc = some (rc', g') →
      ∃ new, g'.handed = g.handed ++ new ∧ new ≠ [] ∧
        z.produced g'.zs = z.produced g.zs ++ new.flatten ∧
        z.consumed g'.zs ++ g'.input = z.consumed g.zs ++ g.input ∧ g'.input <:+ g.input ∧
        (os.Full g.handed new → rc' = rc) ∧ (¬ os.Full g.handed new → rc' = -eio) ∧
        ∃ s input, g'.zs = (z.deflate s input true).next ∧ (z.deflate s input true).code ≠ zOk
  | 0, _, _, _, _, run => by cases run
  | fuel + 1, g, g', rc, rc', run => by
    have consumed : z.consumed (z.deflate g.zs g.input true).next ++
        g.input.drop (z.deflate g.zs g.input true).used = z.consumed g.zs ++ g.input := by
      rw [z.consumed_next, List.append_assoc, List.take_append_drop]
    simp only [gzoCloseLoop, gzoCloseTurn] at run
    by_cases more : (z.deflate g.zs g.input true).code = zOk
    · rw [if_pos more] at run
      obtain ⟨new, handed, nonempty, produced, consumed', suffix, full, short, last⟩ :=
        gzoCloseLoop_result run
      refine ⟨_ :: new, by rw [handed, List.append_assoc]; rfl, List.cons_ne_nil _ _,
        by rw [produced, z.produced_next]; simp, consumed'.trans consumed,
        suffix.trans (List.drop_suffix _ _), fun all => ?_, fun part => ?_, last⟩
      · rw [full all.2, if_neg (not_not.mpr all.1)]
      · by_cases wrote : os.write g.handed (z.deflate g.zs g.input true).out =
            (z.deflate g.zs g.input true).out.length
        · exact short fun rest => part ⟨wrote, rest⟩
        · by_cases rest : os.Full (g.handed ++ [(z.deflate g.zs g.input true).out]) new
          · rw [full rest, if_pos wrote]
          · exact short rest
    · rw [if_neg more] at run
      cases run
      refine ⟨[_], rfl, List.cons_ne_nil _ _, by rw [z.produced_next]; simp, consumed,
        List.drop_suffix _ _, fun wrote => ?_, fun short => ?_, _, _, rfl, more⟩
      · rw [if_neg (not_not.mpr wrote.1)]
      · rw [if_pos fun wrote => short ⟨wrote, trivial⟩]

/-- The loop of `gzo_close` returns: each turn that goes on, on `Z_OK`, consumes input or
hands out output zlib held back. -/
theorem gzoCloseLoop_returns (g : Gos β σ) (rc : Int) :
    ∃ fuel rc' g', gzoCloseLoop z os fuel g rc = some (rc', g') := by
  induction' hn : g.input.length using Nat.strong_induction_on with n ihn generalizing g rc
  induction' hm : z.held g.zs using Nat.strong_induction_on with m ihm generalizing g rc
  set d := z.deflate g.zs g.input true with hd
  by_cases more : d.code = zOk
  · have le : d.used ≤ g.input.length := z.used_le g.zs g.input true
    obtain ⟨fuel, rc', g', run⟩ : ∃ fuel rc' g', gzoCloseLoop z os fuel
        ⟨d.next, g.input.drop d.used, g.handed ++ [d.out]⟩
        (if os.write g.handed d.out ≠ d.out.length then -eio else rc) = some (rc', g') := by
      by_cases used : 0 < d.used
      · exact ihn _ (by simp only [List.length_drop]; omega) _ _ rfl
      · have held := (z.finish_progress g.zs g.input more).resolve_left used
        exact ihm _ (by rw [← hm]; exact held) _ _
          (by simp [Nat.eq_zero_of_not_pos used, hn]) rfl
    exact ⟨fuel + 1, rc', g', by simp only [gzoCloseLoop, gzoCloseTurn, ← hd, if_pos more]; exact run⟩
  · exact ⟨1, _, _, by simp only [gzoCloseLoop, gzoCloseTurn, ← hd, if_neg more]; rfl⟩

/-- A write that returned its size has forwarded the bytes `avail_in` gave zlib. -/
theorem gzoWrite_forwarded {fuel : Nat} {g g' : Gos β σ} {data : List β}
    (run : gzoWrite z os fuel g data = some ((data.length : Int), g')) :
    Forwarded z os g (data.take (data.length % 2 ^ 32)) g' ∧ g'.input = [] :=
  gzoWriteLoop_forwards (Int.natCast_nonneg _) ⟨rfl, [], by simp, by simp, by simp, trivial⟩ run

/-- The stream `apk_ostream_gzip` opens has an empty input, has handed out nothing, and
zlib's state behind it is fresh. -/
theorem apkOstreamGzip_ok {output : Except Int Unit} {allocated : Bool} {g : Gos β σ}
    (opened : apkOstreamGzip z output allocated = .ok g) :
    z.consumed g.zs = [] ∧ z.produced g.zs = [] ∧ g.input = [] ∧ g.handed = [] := by
  unfold apkOstreamGzip at opened
  rcases output with _ | ⟨⟩
  · cases opened
  · cases allocated
    · cases opened
    · cases init : z.deflateInit2 with
      | none => simp [init] at opened
      | some s =>
        simp only [init, if_true, Except.ok.injEq] at opened
        subst opened
        exact ⟨(z.init_fresh s init).1, (z.init_fresh s init).2, rfl, rfl⟩

/-- Writes that all return their sizes, from a stream whose input is used up: zlib has
consumed what each write handed it, and the stream underneath took in full all it
produced. -/
theorem gzoWrites_forwards {fuel : Nat} :
    ∀ {datas : List (List β)} {g g' : Gos β σ}, g.input = [] →
      gzoWrites z os fuel g datas = some (datas.map fun d => (d.length : Int), g') →
      z.consumed g'.zs =
          z.consumed g.zs ++ (datas.map fun d => d.take (d.length % 2 ^ 32)).flatten ∧
        g'.input = [] ∧
        ∃ new, g'.handed = g.handed ++ new ∧ z.produced g'.zs = z.produced g.zs ++ new.flatten ∧
          os.Full g.handed new
  | [], g, g', empty, run => by
    cases run
    exact ⟨by simp, empty, [], by simp, by simp, trivial⟩
  | data :: datas, g, g', _, run => by
    simp only [gzoWrites, List.map_cons] at run
    split at run
    · rename_i r h write
      obtain ⟨rfl, rest⟩ : r = data.length ∧
          gzoWrites z os fuel h datas = some (datas.map fun d => (d.length : Int), g') := by
        cases eq : gzoWrites z os fuel h datas with
        | none => simp [eq] at run
        | some p =>
          obtain ⟨rs, g''⟩ := p
          simp only [eq, Option.map_some', Option.some.injEq, Prod.mk.injEq,
            List.cons.injEq] at run
          exact ⟨run.1.1, by rw [run.1.2, run.2]⟩
      obtain ⟨⟨consumed, new, handed, produced, -, full⟩, empty⟩ := gzoWrite_forwarded write
      obtain ⟨consumed', empty', new', handed', produced', full'⟩ :=
        gzoWrites_forwards empty rest
      have consumed : z.consumed h.zs = z.consumed g.zs ++ data.take (data.length % 2 ^ 32) := by
        simpa [empty] using consumed
      refine ⟨by rw [consumed', consumed, List.map_cons, List.flatten_cons, List.append_assoc],
        empty',
        new ++ new', by simp [handed', handed], by simp [produced', produced], ?_⟩
      exact (Ostream.full_append os _ _ _).mpr ⟨full, handed ▸ full'⟩
    · cases run

end

/-- A zlib that only stores: each call takes at most a buffer's worth of its input and
hands it out as it is, and a finishing call ends the stream once it has taken all of it. -/
def storeZlib : Zlib Nat (List Nat) where
  deflate s input finish :=
    ⟨min input.length gzoBufferSize, input.take gzoBufferSize,
      if finish = true ∧ input.length ≤ gzoBufferSize then zStreamEnd else zOk,
      s ++ input.take gzoBufferSize⟩
  consumed := id
  produced := id
  held _ := 0
  gzip := id
  deflateInit2 := some []
  init_fresh := by simp
  used_le := by simp
  out_le := by simp
  consumed_next := by simp [Nat.min_comm]
  produced_next := by simp
  progress s input nonempty _ := .inl (by simp [gzoBufferSize, List.length_pos.mpr nonempty])
  finish_progress s input more := by
    by_cases fits : input.length ≤ gzoBufferSize
    · simp [fits, zOk, zStreamEnd] at more
    · left
      simp only [gzoBufferSize] at fits ⊢
      omega
  finished _ _ _ := rfl

theorem storeZlib_finishClean : storeZlib.FinishClean := by
  intro s input
  by_cases fits : input.length ≤ gzoBufferSize <;> simp [storeZlib, fits]

/-- A stream that takes every write in full and closes without error. -/
def takingAll : Ostream Nat := ⟨fun _ c => c.length, fun _ => 0⟩

section
variable {β σ : Type} (z : Zlib β σ) (os : Ostream β)

/-- Every `gzo_write` returns, `size` or `-EIO`, and `size` whenever zlib reports no stream
error and the stream underneath takes every write. -/
theorem gzo_write_returns (g : Gos β σ) (data : List β) :
    ∃ fuel r g', gzoWrite z os fuel g data = some (r, g') ∧ (r = data.length ∨ r = -eio) ∧
      (z.NoStreamError → os.TakesAll → r = data.length) :=
  gzoWriteLoop_returns _ _

/-- A `gzo_write` that returns its size has handed zlib its bytes in order, the first
`size % 2 ^ 32` of them that zlib's `avail_in` holds (all of them under 4 GiB), and the
stream underneath all that zlib produced meanwhile, in non-empty chunks each taken in
full. -/
theorem gzo_write_forwards (fuel : Nat) (g g' : Gos β σ) (data : List β)
    (run : gzoWrite z os fuel g data = some ((data.length : Int), g')) :
    z.consumed g'.zs = z.consumed g.zs ++ data.take (data.length % 2 ^ 32) ∧ g'.input = [] ∧
      ∃ new, g'.handed = g.handed ++ new ∧ z.produced g'.zs = z.produced g.zs ++ new.flatten ∧
        (∀ c ∈ new, c ≠ []) ∧ os.Full g.handed new := by
  obtain ⟨⟨consumed, handed⟩, empty⟩ := gzoWrite_forwarded run
  exact ⟨by simpa [empty] using consumed, empty, handed⟩

theorem gzo_write_forwards_stored :
    gzoWrite storeZlib takingAll 2 ⟨[], [], []⟩ [1, 2, 3] = some (3, ⟨[1, 2, 3], [], [[1, 2, 3]]⟩) ∧
      storeZlib.consumed [1, 2, 3] =
        storeZlib.consumed [] ++ [1, 2, 3].take ([1, 2, 3].length % 2 ^ 32) ∧
      ([] : List Nat) = [] ∧
      ∃ new, [[1, 2, 3]] = [] ++ new ∧ storeZlib.produced [1, 2, 3] = storeZlib.produced [] ++
        new.flatten ∧ (∀ c ∈ new, c ≠ []) ∧ takingAll.Full [] new :=
  ⟨rfl, gzo_write_forwards storeZlib takingAll 2 ⟨[], [], []⟩ ⟨[1, 2, 3], [], [[1, 2, 3]]⟩
    [1, 2, 3] rfl⟩

/-- Every `gzo_close` returns, having handed the stream underneath each chunk zlib still
produced, and returns the error of `apk_ostream_close`, else `-EIO` after a short write,
else 0: what `deflate` answered is never reported. -/
theorem gzo_close_result (g : Gos β σ) :
    ∃ fuel rc g', gzoClose z os fuel g = some (rc, g') ∧
      ∃ new, g'.handed = g.handed ++ new ∧ new ≠ [] ∧
        z.produced g'.zs = z.produced g.zs ++ new.flatten ∧
        rc = if os.close g'.handed ≠ 0 then os.close g'.handed
          else if os.Full g.handed new then 0 else -eio := by
  obtain ⟨fuel, rc, g', run⟩ : ∃ fuel rc g', gzoCloseLoop z os fuel g 0 = some (rc, g') :=
    gzoCloseLoop_returns g 0
  obtain ⟨new, handed, nonempty, produced, -, -, full, short, -⟩ := gzoCloseLoop_result run
  refine ⟨fuel, _, g', by rw [gzoClose, run]; rfl, new, handed, nonempty, produced, ?_⟩
  split_ifs with closed all
  · rfl
  · exact full all
  · exact short all

/-- A whole session of the stream `apk_ostream_gzip` opens: when its writes all returned
their sizes and its close returned 0, the stream underneath has taken in full, in order,
the gzip encoding of what the writes handed zlib, the first `size % 2 ^ 32` bytes of each,
and so of everything written when each write is under 4 GiB, provided zlib's finishing
calls do not fail. -/
theorem gzip_session (clean : z.FinishClean) (output : Except Int Unit) (allocated : Bool)
    (fuel : Nat) (g₀ g g' : Gos β σ) (datas : List (List β))
    (opened : apkOstreamGzip z output allocated = .ok g₀)
    (writes : gzoWrites z os fuel g₀ datas = some (datas.map fun d => (d.length : Int), g))
    (closed : gzoClose z os fuel g = some (0, g')) :
    g'.handed.flatten = z.gzip (datas.map fun d => d.take (d.length % 2 ^ 32)).flatten ∧
      ((∀ d ∈ datas, d.length < 2 ^ 32) → g'.handed.flatten = z.gzip datas.flatten) ∧
      os.Full [] g'.handed := by
  obtain ⟨consumed₀, produced₀, input₀, handed₀⟩ := apkOstreamGzip_ok opened
  obtain ⟨consumed, input, new, handed, produced, full⟩ := gzoWrites_forwards input₀ writes
  obtain ⟨⟨rc, g''⟩, run, same⟩ := Option.map_eq_some'.mp closed
  obtain ⟨closed_rc, rfl⟩ := Prod.mk.inj same
  obtain ⟨new', handed', -, produced', consumed', suffix, full', short, s, i, last, ended⟩ :=
    gzoCloseLoop_result run
  have rc0 : rc = 0 := by
    split_ifs at closed_rc with failed
    · exact absurd closed_rc failed
    · exact closed_rc
  have all : os.Full g.handed new' := by
    by_contra part
    exact neg_eio_ne_zero ((short part).symm.trans rc0)
  have consumed'' :
      z.consumed g''.zs = (datas.map fun d => d.take (d.length % 2 ^ 32)).flatten := by
    rw [input] at suffix consumed'
    rw [List.suffix_nil.mp suffix] at consumed'
    simpa [consumed, consumed₀] using consumed'
  have encoded := z.finished s i ((clean s i).resolve_left ended)
  rw [← last, consumed''] at encoded
  have handed_all : g''.handed = new ++ new' := by rw [handed', handed, handed₀, List.nil_append]
  have session :
      g''.handed.flatten = z.gzip (datas.map fun d => d.take (d.length % 2 ^ 32)).flatten :=
    calc g''.handed.flatten = z.produced g''.zs := by
          rw [handed_all, produced', produced, produced₀, List.flatten_append, List.nil_append]
      _ = _ := encoded
  refine ⟨session, fun small => ?_, handed_all ▸ (Ostream.full_append os [] new new').mpr
    ⟨handed₀ ▸ full, by simpa [handed, handed₀] using all⟩⟩
  have whole : (datas.map fun d => d.take (d.length % 2 ^ 32)) = datas :=
    (List.map_congr_left (g := fun d => d) fun d mem =>
      List.take_of_length_le (Nat.mod_eq_of_lt (small d mem)).ge).trans (List.map_id' datas)
  rwa [whole] at session

theorem gzip_session_stored :
    storeZlib.FinishClean ∧
      ([[1, 2, 3], []] : List (List Nat)).flatten =
        storeZlib.gzip ([[1, 2, 3]].map fun d => d.take (d.length % 2 ^ 32)).flatten ∧
      ((∀ d ∈ [[1, 2, 3]], d.length < 2 ^ 32) →
        ([[1, 2, 3], []] : List (List Nat)).flatten = storeZlib.gzip [[1, 2, 3]].flatten) ∧
      takingAll.Full [] [[1, 2, 3], []] :=
  ⟨storeZlib_finishClean, gzip_session storeZlib takingAll storeZlib_finishClean (.ok ()) true
    2 ⟨[], [], []⟩ ⟨[1, 2, 3], [], [[1, 2, 3]]⟩ ⟨[1, 2, 3], [], [[1, 2, 3], []]⟩ [[1, 2, 3]]
    rfl rfl rfl⟩

end

end ApkTools.Gunzip
