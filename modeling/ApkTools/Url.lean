import ApkTools.Gunzip.Model

/-! url.c: how a URL is opened. `apk_url_local_file` decides between a local file and a
transfer by the URL's scheme, `apk_istream_fetch` starts a transfer and releases what it
acquired on each way out, and `fetch_maperror` turns libfetch's error codes into negative
errno values. URLs are lists of bytes, a byte per character; libfetch and the `EAPK*` codes of
apk_defines.h are not among the sources and are given.

* `apk_url_local_file_schemes`: a URL is fetched exactly when it starts with `http:`,
  `https:` or `ftp:`; `file:` is stripped, and any other URL is opened as the path it is;
* `apk_istream_fetch_releases`: on each way out `apk_istream_fetch` has released each thing
  it acquired once, except the transfer and its buffer on success, which the stream keeps, and
  an error it returns is a negative errno. -/
namespace ApkTools.Url

open ApkTools.Gunzip (eio enomem)

/-- `apk_url_local_file(url)`: the path of a local file, or `NULL` for a URL to fetch. -/
def apkUrlLocalFile (url : List Char) : Option (List Char) :=
  if "file:".toList <+: url then some (url.drop 5)
  else if ¬ "http:".toList <+: url ∧ ¬ "https:".toList <+: url ∧ ¬ "ftp:".toList <+: url then
    some url
  else none

/-- What `apk_istream_from_fd_url_if_modified(atfd, url, since)` opens: a local file, or a
transfer through `apk_istream_fetch`. -/
inductive Opened
  | fromFile (atfd : Int) (path : List Char)
  | fetch (url : List Char) (since : Int)
  deriving DecidableEq, Repr

def apkIstreamFromFdUrlIfModified (atfd : Int) (url : List Char) (since : Int) : Opened :=
  match apkUrlLocalFile url with
  | some path => .fromFile atfd path
  | none => .fetch url since

/-- The prefix tests of `apk_url_local_file` as they read: `strncmp` against a literal. -/
theorem apk_url_local_file_schemes (url : List Char) :
    (apkUrlLocalFile url = none ↔ "http:".toList <+: url ∨ "https:".toList <+: url ∨
        "ftp:".toList <+: url) ∧
      (∀ path, apkUrlLocalFile ("file:".toList ++ path) = some path) ∧
      (∀ path, apkUrlLocalFile url = some path → path <:+ url) ∧
      (∀ atfd since, apkIstreamFromFdUrlIfModified atfd url since = .fetch url since ↔
        apkUrlLocalFile url = none) := by
  refine ⟨?_, fun path => by simp [apkUrlLocalFile], fun path opened => ?_, fun atfd since => ?_⟩
  · by_cases file : "file:".toList <+: url
    · have remote : ¬ ("http:".toList <+: url ∨ "https:".toList <+: url ∨
          "ftp:".toList <+: url) := by
        obtain ⟨rest, rfl⟩ := file
        rintro (⟨r, h⟩ | ⟨r, h⟩ | ⟨r, h⟩) <;> simp at h
      simp only [apkUrlLocalFile, if_pos file, remote, iff_false]
      exact Option.some_ne_none _
    · simp only [apkUrlLocalFile, if_neg file]
      split_ifs with local_path <;> simp only [local_path] <;> tauto
  · unfold apkUrlLocalFile at opened
    split_ifs at opened <;> cases opened
    · exact List.drop_suffix _ _
    · exact List.suffix_refl _
  · unfold apkIstreamFromFdUrlIfModified
    cases apkUrlLocalFile url <;> simp

/-- The `FETCH_*` error codes of libfetch's fetch.h. -/
structure FetchCodes where
  fetchAbort : Nat
  fetchAuth : Nat
  fetchDown : Nat
  fetchExists : Nat
  fetchFull : Nat
  fetchMemory : Nat
  fetchMoved : Nat
  fetchNetwork : Nat
  fetchProto : Nat
  fetchResolv : Nat
  fetchServer : Nat
  fetchTemp : Nat
  fetchTimeout : Nat
  fetchUnavail : Nat
  fetchUnknown : Nat
  fetchUrl : Nat
  fetchUnchanged : Nat

/-- The errno values of Linux that `fetch_maperror` uses. -/
def econnaborted : Int := 103
def eacces : Int := 13
def econnrefused : Int := 111
def eexist : Int := 17
def enospc : Int := 28
def enoent : Int := 2
def enetunreach : Int := 101
def eproto : Int := 71
def enxio : Int := 6
def eremoteio : Int := 121
def eagain : Int := 11
def etimedout : Int := 110
def ealready : Int := 114

/-- The designated initializers of `map` in `fetch_maperror`, in order. -/
def fetchMap (codes : FetchCodes) (eapkbadurl : Int) : List (Nat × Int) :=
  [(codes.fetchAbort, -econnaborted), (codes.fetchAuth, -eacces),
   (codes.fetchDown, -econnrefused), (codes.fetchExists, -eexist), (codes.fetchFull, -enospc),
   (codes.fetchMemory, -enomem), (codes.fetchMoved, -enoent),
   (codes.fetchNetwork, -enetunreach), (codes.fetchProto, -eproto),
   (codes.fetchResolv, -enxio), (codes.fetchServer, -eremoteio), (codes.fetchTemp, -eagain),
   (codes.fetchTimeout, -etimedout), (codes.fetchUnavail, -enoent),
   (codes.fetchUnknown, -eio), (codes.fetchUrl, -eapkbadurl),
   (codes.fetchUnchanged, -ealready)]

/-- `map[i]` of the array the initializers build: the last one for index `i`, 0 for none. -/
def mapAt (map : List (Nat × Int)) (i : Nat) : Int :=
  ((map.filter fun entry => entry.1 = i).getLast?.map (·.2)).getD 0

/-- `ARRAY_SIZE(map)`: one past the largest index initialized. -/
def arraySize (map : List (Nat × Int)) : Nat := (map.map (·.1)).foldr max 0 + 1

/-- `fetch_maperror(ec)`. -/
def fetchMaperror (codes : FetchCodes) (eapkbadurl ec : Int) : Int :=
  let map := fetchMap codes eapkbadurl
  if ec < 0 ∨ arraySize map ≤ ec.toNat ∨ mapAt map ec.toNat = 0 then -eio
  else mapAt map ec.toNat

theorem mapAt_mem (map : List (Nat × Int)) (i : Nat) :
    mapAt map i = 0 ∨ ∃ entry ∈ map, entry.2 = mapAt map i := by
  unfold mapAt
  cases last : (map.filter fun entry => entry.1 = i).getLast? with
  | none => exact .inl rfl
  | some entry =>
    exact .inr ⟨entry, (List.mem_filter.mp (List.mem_of_getLast?_eq_some last)).1, rfl⟩

theorem fetchMaperror_neg (codes : FetchCodes) {eapkbadurl : Int} (positive : 0 < eapkbadurl)
    (ec : Int) : fetchMaperror codes eapkbadurl ec < 0 := by
  unfold fetchMaperror
  dsimp only
  split_ifs with fallback
  · decide
  · rcases mapAt_mem (fetchMap codes eapkbadurl) ec.toNat with zero | ⟨entry, mem, value⟩
    · exact absurd zero fun h => fallback (.inr (.inr h))
    · rw [← value]
      simp only [fetchMap, List.mem_cons, List.mem_singleton, List.not_mem_nil, or_false] at mem
      rcases mem with h | h | h | h | h | h | h | h | h | h | h | h | h | h | h | h | h <;>
        subst h <;> simp [econnaborted, eacces, econnrefused, eexist, enospc, enomem, enoent,
          enetunreach, eproto, enxio, eremoteio, eagain, etimedout, eio, ealready, positive]

/-- What the calls of `apk_istream_fetch` answer: whether `fetchParseURL` gives a URL,
whether `malloc` succeeds, whether `fetchXGet` starts the transfer, and `fetchLastErrCode`
after a transfer that did not start. -/
structure FetchCalls where
  parsed : Bool
  allocated : Bool
  got : Bool
  lastErrCode : Int
  deriving DecidableEq, Repr

/-- What `apk_istream_fetch` acquires: the parsed URL `u`, the stream `fis` and the transfer
`io`. -/
inductive Resource
  | url | fis | io
  deriving DecidableEq, Repr

/-- A way out of `apk_istream_fetch`: the stream or the errno of the error pointer, what it
acquired and what it released, in order. -/
structure Fetched where
  result : Except Int Unit
  acquired : List Resource
  released : List Resource

/-- The label `err` of `apk_istream_fetch`, with `u`, `io` and `fis` set or `NULL`. -/
def fetchErr (u fis io : Bool) (rc : Int) (acquired : List Resource) : Fetched :=
  ⟨.error rc, acquired,
    (if u then [.url] else []) ++ (if io then [.io] else []) ++ (if fis then [.fis] else [])⟩

/-- `apk_istream_fetch(url, since)`. -/
def apkIstreamFetch (codes : FetchCodes) (eapkbadurl : Int) (calls : FetchCalls) : Fetched :=
  if !calls.parsed then fetchErr false false false (-eapkbadurl) []
  else if !calls.allocated then fetchErr true false false (-enomem) [.url]
  else if !calls.got then
    fetchErr true true false (fetchMaperror codes eapkbadurl calls.lastErrCode) [.url, .fis]
  else ⟨.ok (), [.url, .fis, .io], [.url]⟩

/-- The one way out of `apk_istream_fetch` with a stream. -/
theorem apkIstreamFetch_eq_of_ok {codes : FetchCodes} {eapkbadurl : Int} {calls : FetchCalls}
    (opened : (apkIstreamFetch codes eapkbadurl calls).result = .ok ()) :
    apkIstreamFetch codes eapkbadurl calls = ⟨.ok (), [.url, .fis, .io], [.url]⟩ := by
  unfold apkIstreamFetch at opened ⊢
  split_ifs at opened ⊢ <;> first | rfl | cases opened

/-- Every way out of `apk_istream_fetch` has released each thing acquired exactly once,
except, on success, the transfer and the stream that holds it; an error it returns is the
negative errno of an error pointer, never `NULL`. -/
theorem apk_istream_fetch_releases (codes : FetchCodes) (eapkbadurl : Int)
    (positive : 0 < eapkbadurl) (calls : FetchCalls) :
    (apkIstreamFetch codes eapkbadurl calls).acquired.Nodup ∧
      (∀ rc, (apkIstreamFetch codes eapkbadurl calls).result = .error rc →
        rc < 0 ∧ (apkIstreamFetch codes eapkbadurl calls).released.Perm
          (apkIstreamFetch codes eapkbadurl calls).acquired) ∧
      ((apkIstreamFetch codes eapkbadurl calls).result = .ok () →
        ((apkIstreamFetch codes eapkbadurl calls).released ++ [Resource.fis, Resource.io]).Perm
          (apkIstreamFetch codes eapkbadurl calls).acquired) := by
  obtain ⟨parsed, allocated, got, lastErrCode⟩ := calls
  cases parsed
  · simp [apkIstreamFetch, fetchErr, positive]
  cases allocated
  · simp [apkIstreamFetch, fetchErr, enomem]
  cases got
  · simp [apkIstreamFetch, fetchErr, fetchMaperror_neg codes positive]
  · simp [apkIstreamFetch]

/-- `fetch_read`: what `fetchIO_read` returns, `-EIO` for any error. -/
def fetchRead (r : Int) : Int := if r < 0 then -eio else r

/-- What `fetch_close` releases: the transfer, then the stream. -/
def fetchClose : List Resource := [.io, .fis]

/-- A stream that `apk_istream_fetch` opened has, once `fetch_close` closed it, released
each thing acquired exactly once. -/
theorem apkIstreamFetch_fetchClose (codes : FetchCodes) (eapkbadurl : Int) (calls : FetchCalls)
    (opened : (apkIstreamFetch codes eapkbadurl calls).result = .ok ()) :
    ((apkIstreamFetch codes eapkbadurl calls).released ++ fetchClose).Perm
      (apkIstreamFetch codes eapkbadurl calls).acquired := by
  rw [apkIstreamFetch_eq_of_ok opened]
  decide

end ApkTools.Url
