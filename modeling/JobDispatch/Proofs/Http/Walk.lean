import JobDispatch.Proofs.Http.Exchange
import JobDispatch.Proofs.Job.Format
import JobDispatch.Proofs.Store.Paging
import JobDispatch.Proofs.Store.Precedence
import JobDispatch.Proofs.Text.Padded

/-!
# Walking through the pages

A request for the list of jobs is answered with one page of it, and with the limit and the offset
that the page has: whatever texts the query holds, the limit lies between one and a hundred, and the
offset is not negative. A client that goes on by the limit that it is told comes through all jobs of
a store that does not change, each once, and to an end.
-/

namespace JobDispatch

namespace Json

/-- Reads the items of an array by a reader, of which the first has the given index. -/
def readEach {α : Type} (read : Reader α) (depth index : Nat) : List Draft → Except Flaw (List α)
  | [] => .ok []
  | item :: rest => do
    let value ← within (.item index) (read depth item)
    return value :: (← readEach read depth (index + 1) rest)

namespace Format

variable {α : Type} {format : Format α} {limit : Nat}

/-- Arrays of values. -/
def items (format : Format α) : Format (List α) where
  encode values := .array (values.map format.encode)
  decode
    | depth, .array drafts ending => do
      let inner ← enter depth
      let values ← readEach format.decode inner 0 drafts
      endList ending
      return values
    | _, draft => wrongType "a sequence" draft

/-- Integers of sixty-four bits with sign. -/
def int64 : Format Int := ⟨.ofInt, readWhole "i64" (-0x8000000000000000) 0x7FFFFFFFFFFFFFFF⟩

/-- The drafts of values that are carried are read as these. -/
theorem readEach_drafts {values : List α} (each : ∀ value ∈ values, format.Carries limit value)
    {depth : Nat} (allowed : limit < depth) (index : Nat) :
    readEach format.decode depth index (itemDrafts (values.map format.encode)) = .ok values := by
  induction values generalizing index with
  | nil => rfl
  | cons value values ih =>
    rw [List.map_cons, itemDrafts, readEach,
      (each value List.mem_cons_self).decoded depth allowed,
      ih fun value member => each value (List.mem_cons_of_mem _ member)]
    rfl

/-- An array is carried when its values are. -/
theorem carries_items {values : List α} (each : ∀ value ∈ values, format.Carries limit value) :
    (items format).Carries (limit + 1) values := by
  constructor
  · refine .array fun item member => ?_
    obtain ⟨value, isValue, rfl⟩ := List.mem_map.mp member
    exact (each value isValue).portable
  · intro depth allowed
    have read : readEach format.decode (depth - 1) 0 (itemDrafts (values.map format.encode)) =
        .ok values := readEach_drafts each (by omega) 0
    change (items format).decode depth (.array (itemDrafts (values.map format.encode)) .closed) = _
    simp only [items, enter_of_allowed (by omega : 1 < depth), bind, Except.bind, read]
    rfl

/-- Integers of sixty-four bits with sign are carried. -/
theorem carries_int64 (limit : Nat) {value : Int} (low : -0x8000000000000000 ≤ value)
    (high : value ≤ 0x7FFFFFFFFFFFFFFF) : int64.Carries limit value := by
  have size : (UInt64.size : Int) = 0x10000000000000000 := rfl
  have written : int64.encode value = .whole ⟨value, by omega⟩ := ofInt_of_fits _
  refine ⟨written ▸ .whole _, fun depth _ => ?_⟩
  rw [written]
  exact readWhole_wholeNumeral "i64" ⟨value, by omega⟩ low high depth

end Format

end Json

namespace Http

open Json (Format Members Record)

/-- A page of jobs with its limit and its offset. -/
structure Page where
  /-- The jobs. -/
  jobs : List JobSummary
  /-- The greatest number of jobs. -/
  limit : Int
  /-- The number of jobs before the page. -/
  offset : Int

namespace Page

/-- The format of a page. -/
def format : Format Page :=
  (Record.plain "Page"
    (.cons "jobs" (.items JobSummary.format) .required <| .cons "limit" .int64 .required <|
      .cons "offset" .int64 .required .nil)
    (fun (jobs, limit, offset, _) => ⟨jobs, limit, offset⟩)
    (fun page => (page.jobs, page.limit, page.offset, ()))).format

/-- The response with a page. -/
def response (page : Page) : Response := .json 200 (format.encode page)

/-- The page that a response reports. -/
def ofResponse? (response : Response) : Option Page :=
  if response.status = 200 then (format.read response.body).toOption else none

/-- A response reports the page that it has been made for. -/
theorem ofResponse?_response {page : Page} (limit : 0 ≤ page.limit ∧ page.limit ≤ 100)
    (offset : 0 ≤ page.offset ∧ page.offset ≤ 0x7FFFFFFFFFFFFFFF) :
    ofResponse? page.response = some page := by
  have carries : format.Carries 3 page := Record.carries_plain (by decide)
    ⟨Format.carries_items fun summary _ => JobSummary.carries_format 0 summary,
      Format.carries_int64 2 (by omega) (by omega), Format.carries_int64 2 (by omega) (by omega),
      trivial⟩ rfl
  have read : format.read (format.encode page).compact = .ok page :=
    carries.read_write (by decide)
  rw [ofResponse?, response, Response.json, if_pos rfl]
  dsimp only
  rw [read]
  rfl

end Page

/-- A limit lies between one and a hundred, whatever text it is read from. -/
theorem pageLimit_bounds (text : Option String) : 1 ≤ pageLimit text ∧ pageLimit text ≤ 100 := by
  unfold pageLimit greatestLimit defaultLimit
  split
  · rename_i limit read
    have positive := of_decide_eq_true (Option.mem_filter_iff.mp read).2
    omega
  · omega

/-- An offset is not negative and fits sixty-four bits, whatever text it is read from. -/
theorem pageOffset_bounds (text : Option String) :
    0 ≤ pageOffset text ∧ pageOffset text ≤ 0x7FFFFFFFFFFFFFFF := by
  unfold pageOffset
  cases read : (text.bind fun text => Text.readInt64? (Text.trim text)).filter (0 ≤ ·) with
  | none => simp
  | some offset =>
    obtain ⟨found, natural⟩ := Option.filter_eq_some_iff.mp read
    obtain ⟨text, -, found⟩ := Option.bind_eq_some_iff.mp found
    have fits := of_decide_eq_true (Option.filter_eq_some_iff.mp found).2
    have least := of_decide_eq_true natural
    rw [Option.getD_some]
    omega

/-- A request that is routed to what it may get is answered by the handler of the resource. -/
theorem respond_got {dispatcher : Dispatcher} {request : Request} {resource : Resource}
    (routed : Resource.ofPath? request.target.path = some resource)
    (got : request.method = "GET") (canGet : resource.canGet) :
    respond dispatcher request =
      (serve dispatcher request resource .get).run.change eitherWay := by
  have meant : resource.access? request.method = some .get := by
    rw [Resource.access?, if_pos ⟨.inl got, canGet⟩]
  have same (response : Response) : shown request.method response = response := by
    rw [shown, if_neg (by simp [got])]
  rw [respond, routed]
  dsimp only
  rw [meant]
  simp only [same]
  rfl

namespace Request

/-- The pairs of the query. -/
def pairs (request : Request) : List (String × String) :=
  (request.target.query.map Target.pairs).getD []

/-- The limit that the query asks for. -/
def limit (request : Request) : Int := pageLimit (queryValue request.pairs "limit")

/-- The offset that the query asks for. -/
def offset (request : Request) : Int := pageOffset (queryValue request.pairs "offset")

/-- A request for the list of jobs, whose query holds no limit and no offset twice. -/
structure IsListing (request : Request) : Prop where
  /-- The list is to be got. -/
  got : request.method = "GET"
  /-- The path is that of the list. -/
  routed : Resource.ofPath? request.target.path = some .jobs
  /-- The query is well formed. -/
  wellFormed : repeatedKey? ["limit", "offset"] request.pairs = none

/-- The page of a store that a request asks for. -/
def page (request : Request) (store : Store) : Page :=
  ⟨store.page request.limit request.offset, request.limit, request.offset⟩

variable {request : Request} {dispatcher : Dispatcher}

/-- A request for the list of jobs is one operation of the dispatcher. -/
theorem IsListing.respond (isListing : request.IsListing) :
    respond dispatcher request =
      (dispatcher.listJobs request.limit request.offset).program.change (responseTo fun jobs =>
        (⟨jobs, request.limit, request.offset⟩ : Page).response) := by
  have read : readPage request.target.query = .ok (request.limit, request.offset) := by
    have once := isListing.wellFormed
    rw [pairs] at once
    simp only [readPage, once]
    rfl
  rw [respond_got isListing.routed isListing.got rfl, serve, listJobs, check_passes read]
  exact ask_return fun jobs => rfl

/-- A request for the list of jobs that takes effect is answered with the page that it asks for, and
leaves the store as it is. -/
theorem IsListing.alone (isListing : request.IsListing) {backend : Backend}
    (available : backend.store.available) (up : Bool) (now : Instant) (fresh : ResourceId) :
    (Http.respond dispatcher request).alone up [.effective now fresh] backend =
      some ((request.page backend.store).response, backend) := by
  rw [isListing.respond, Program.alone_change]
  have listed := Store.lists_page available request.limit request.offset now fresh
  change ((Program.call _ _ _).alone up _ backend).map _ = _
  rw [Program.alone, Backend.perform]
  dsimp only
  rw [listed]
  rfl

end Request

/-- Goes through the pages from an offset: asks for the page there, alone and at some clock reading,
and goes on by the limit that the response reports, until a page is not full. The fuel is the number
of requests that may be made. -/
def walk (dispatcher : Dispatcher) (up : Bool) (ask : Int → Request) (clock : Int → Instant) :
    Nat → Int → Backend → Option (List JobSummary × Backend)
  | 0, _, _ => none
  | fuel + 1, offset, backend => do
    let (response, after) ←
      (respond dispatcher (ask offset)).alone up [.effective (clock offset) default] backend
    let page ← Page.ofResponse? response
    if page.jobs.length < page.limit then return (page.jobs, after)
    let (later, last) ← walk dispatcher up ask clock fuel (page.offset + page.limit) after
    return (page.jobs ++ later, last)

/-- Requests for the pages at all offsets of sixty-four bits, whose limits are read from one text. -/
structure AsksPages (ask : Int → Request) (limit : Option String) : Prop where
  /-- The list of jobs is asked for. -/
  listing : ∀ offset, (ask offset).IsListing
  /-- The text of the limit is the same. -/
  limited : ∀ offset, queryValue (ask offset).pairs "limit" = limit
  /-- The offset is the one that is wanted. -/
  offset : ∀ offset, 0 ≤ offset → offset < 0x8000000000000000 → (ask offset).offset = offset

section

variable {dispatcher : Dispatcher} {up : Bool} {ask : Int → Request} {clock : Int → Instant}
  {limit : Option String} {backend : Backend}

/-- Each step of a walk takes one page and goes on behind it. -/
theorem walk_succ (asks : AsksPages ask limit) (available : backend.store.available) {offset : Int}
    (natural : 0 ≤ offset) (fits : offset < 0x8000000000000000) (fuel : Nat) :
    walk dispatcher up ask clock (fuel + 1) offset backend =
      if ((backend.store.page (pageLimit limit) offset).length : Int) < pageLimit limit then
        some (backend.store.page (pageLimit limit) offset, backend)
      else
        (walk dispatcher up ask clock fuel (offset + pageLimit limit) backend).map
          fun (later, last) => (backend.store.page (pageLimit limit) offset ++ later, last) := by
  have same : (ask offset).page backend.store =
      ⟨backend.store.page (pageLimit limit) offset, pageLimit limit, offset⟩ := by
    rw [Request.page, asks.offset offset natural fits, Request.limit, asks.limited offset]
  have bounds := pageLimit_bounds limit
  have reported : Page.ofResponse? ((ask offset).page backend.store).response =
      some ((ask offset).page backend.store) := by
    rw [same]
    exact Page.ofResponse?_response ⟨by dsimp only; omega, bounds.2⟩ ⟨natural, by dsimp only; omega⟩
  rw [walk, (asks.listing offset).alone available]
  simp only [bind, Option.bind, reported]
  rw [same]
  dsimp only
  split
  · rfl
  · cases walk dispatcher up ask clock fuel (offset + pageLimit limit) backend <;> rfl

/-- A walk from an offset comes to the jobs behind it, each once, when it has fuel enough. -/
theorem walk_eq (asks : AsksPages ask limit) (available : backend.store.available)
    (few : backend.store.jobs.values.length < 0x8000000000000000) {fuel : Nat} {start : Nat}
    (inside : start ≤ backend.store.jobs.values.length)
    (enough : backend.store.jobs.values.length < fuel + start) :
    walk dispatcher up ask clock fuel start backend =
      some (backend.store.listing.drop start, backend) := by
  induction fuel generalizing start with
  | zero => omega
  | succ fuel ih =>
    obtain ⟨positive, -⟩ := pageLimit_bounds limit
    obtain ⟨step, isStep⟩ := Int.eq_ofNat_of_zero_le (by omega : 0 ≤ pageLimit limit)
    have total := backend.store.length_listing
    have length : (backend.store.page (pageLimit limit) start).length =
        min step (backend.store.jobs.values.length - start) := by
      rw [Store.page, isStep, List.length_take, List.length_drop, total]
      rfl
    rw [walk_succ asks available (by omega) (by omega), length]
    split
    · rw [Store.page, Int.toNat_natCast, List.take_of_length_le]
      rw [List.length_drop, total]
      omega
    · have next : (start : Int) + pageLimit limit = (start + step : Nat) := by omega
      rw [next, ih (by omega) (by omega), Store.page, isStep, Int.toNat_natCast, Int.toNat_natCast,
        Option.map_some, ← List.drop_drop]
      dsimp only
      rw [List.take_append_drop]

end

/-- A key with a value in a query. -/
def fieldText (field : List Char × List Char) : List Char := field.1 ++ '=' :: field.2

/-- The pairs of a query are those of its parts, if these hold no separators of their own. -/
theorem Target.pairs_fields {query : String} {first : List Char × List Char}
    {others : List (List Char × List Char)}
    (written : query.toList = fieldText first ++ others.flatMap fun field => '&' :: fieldText field)
    (keys : ∀ field ∈ first :: others, '=' ∉ field.1)
    (inside : ∀ field ∈ first :: others, '&' ∉ fieldText field) :
    Target.pairs query = (first :: others).map fun field => (formText field.1, formText field.2) := by
  have parts : Host.splitAt (· = '&') query.toList = (first :: others).map fieldText := by
    have split : Host.splitAt (· = '&')
        (fieldText first ++ (others.map fieldText).flatMap ('&' :: ·)) =
          fieldText first :: others.map fieldText := by
      refine Host.splitAt_parts (by decide) fun part member char isIn => ?_
      obtain ⟨field, isField, rfl⟩ := List.mem_map.mp (List.map_cons ▸ member)
      exact decide_eq_false fun same => inside field isField (same ▸ isIn)
    rw [List.flatMap_map] at split
    rw [written, split, List.map_cons]
  have filled : ((first :: others).map fieldText).filter (!·.isEmpty) =
      (first :: others).map fieldText := by
    refine List.filter_eq_self.mpr fun part member => ?_
    obtain ⟨field, -, rfl⟩ := List.mem_map.mp member
    simp [fieldText]
  rw [Target.pairs, parts]
  dsimp only
  rw [filled, List.map_map]
  refine List.map_congr_left fun field member => ?_
  have key : (fieldText field).takeWhile (· ≠ '=') = field.1 := by
    rw [fieldText, List.takeWhile_append_of_pos]
    · simp
    · intro char isIn
      exact decide_eq_true fun same => keys field member (same ▸ isIn)
  rw [Function.comp_apply, key]
  simp [fieldText]

/-- A text of ASCII characters that are neither percent signs nor plus signs is read as it is. -/
theorem Target.formText_plain {text : String} (ascii : ∀ char ∈ text.toList, char.toNat < 0x80)
    (notPercent : '%' ∉ text.toList) (notPlus : '+' ∉ text.toList) :
    formText text.toList = text := by
  have same : text.toList.map (fun char => if char = '+' then ' ' else char) = text.toList := by
    refine (List.map_congr_left fun char member => ?_).trans (List.map_id text.toList)
    have other : char ≠ '+' := fun same => notPlus (same ▸ member)
    rw [if_neg other]
    rfl
  simp only [formText, same, Text.percentDecode_plain ascii notPercent,
    Text.ofUtf8Lossy_ascii ascii, String.ofList_toList]

/-- What is no digit does not stand in a decimal text. -/
theorem notMem_padded {char : Char} (other : char.isDigit = false) (value : Nat) :
    char ∉ (Text.padded 0 value).toList := fun member => by
  simp [Text.isDigit_padded 0 value char member] at other

/-- A decimal text is read as it is. -/
theorem Target.formText_padded (value : Nat) :
    formText (Text.padded 0 value).toList = Text.padded 0 value := by
  refine formText_plain (fun char member => ?_) (notMem_padded rfl value) (notMem_padded rfl value)
  have digit := Text.isDigit_padded 0 value char member
  simp only [Char.isDigit, Bool.and_eq_true, decide_eq_true_eq, UInt32.le_iff_toNat_le] at digit
  exact Nat.lt_of_le_of_lt digit.2 (by decide)

/-- The decimal text of a number of sixty-four bits is read as an offset of this number. -/
theorem pageOffset_padded {offset : Nat} (fits : offset < 0x8000000000000000) :
    pageOffset (some (Text.padded 0 offset)) = offset := by
  have digits := Text.isDigit_padded 0 offset
  have trimmed : Text.trim (Text.padded 0 offset) = Text.padded 0 offset :=
    Text.trim_of_unblank fun char member => Rfc3339.isBlank_of_isDigit (digits char member)
  have read : Text.readInt? (Text.padded 0 offset) = some (offset : Int) := by
    have value := Text.readDigits?_padded 0 offset
    obtain ⟨first, more, shown⟩ := List.exists_cons_of_ne_nil (Text.padded_ne_nil 0 offset)
    rw [shown] at value digits
    have digit := digits first List.mem_cons_self
    rw [Text.readInt?, shown]
    split
    · simp_all [Char.isDigit]
    · simp_all [Char.isDigit]
    · rw [Text.readNat?, value]
      · rfl
      · nofun
  have inRange : (Text.readInt64? (Text.padded 0 offset)) = some (offset : Int) := by
    rw [Text.readInt64?, read, Option.filter_some, if_pos (by simp; omega)]
  rw [pageOffset, Option.bind_some, trimmed, inRange, Option.filter_some, if_pos (by simp)]
  rfl

/-- The request for the page at an offset, with the text of a limit if there is one. -/
def listRequest (limit : Option String) (offset : Int) : Request where
  method := "GET"
  target := ⟨"/api/v1/jobs", some (limit.elim "" (fun text => "limit=" ++ text ++ "&") ++
    ("offset=" ++ Text.padded 0 offset.toNat))⟩
  headers := []
  body := ""

/-- The pairs of a request for a page are its limit, if there is one, and its offset. -/
theorem pairs_listRequest {limit : Option String} (inside : ∀ text ∈ limit, '&' ∉ text.toList)
    (offset : Int) : (listRequest limit offset).pairs =
      (limit.map fun text => ("limit", Target.formText text.toList)).toList ++
        [("offset", Text.padded 0 offset.toNat)] := by
  have limitKey : Target.formText "limit".toList = "limit" :=
    Target.formText_plain (by simp) (by simp) (by simp)
  have offsetKey : Target.formText "offset".toList = "offset" :=
    Target.formText_plain (by simp) (by simp) (by simp)
  have last : '&' ∉ fieldText ("offset".toList, (Text.padded 0 offset.toNat).toList) := by
    simp [fieldText, notMem_padded]
  cases limit with
  | none =>
    have written : ("" ++ ("offset=" ++ Text.padded 0 offset.toNat)).toList =
        fieldText ("offset".toList, (Text.padded 0 offset.toNat).toList) ++
          [].flatMap fun field => '&' :: fieldText field := by
      simp [fieldText]
    rw [Request.pairs, listRequest, Option.elim_none, Option.map_some, Option.getD_some,
      Target.pairs_fields written (by simp) (by simpa using last)]
    simp only [List.map_cons, List.map_nil, Target.formText_padded, offsetKey]
    rfl
  | some text =>
    have written : ("limit=" ++ text ++ "&" ++ ("offset=" ++ Text.padded 0 offset.toNat)).toList =
        fieldText ("limit".toList, text.toList) ++
          [("offset".toList, (Text.padded 0 offset.toNat).toList)].flatMap
            fun field => '&' :: fieldText field := by
      simp [fieldText]
    have first : '&' ∉ fieldText ("limit".toList, text.toList) := by
      simpa [fieldText] using inside text rfl
    rw [Request.pairs, listRequest, Option.elim_some, Option.map_some, Option.getD_some,
      Target.pairs_fields written (by simp) (by simpa using ⟨first, last⟩)]
    simp only [List.map_cons, List.map_nil, Target.formText_padded, offsetKey, limitKey]
    rfl

/-- There are such requests for every text of a limit that does not end its part of the query. -/
theorem asksPages_listRequest {limit : Option String}
    (inside : ∀ text ∈ limit, '&' ∉ text.toList) :
    AsksPages (listRequest limit) (limit.map fun text => Target.formText text.toList) where
  listing offset := by
    have routed : Resource.ofPath? "/api/v1/jobs" = some .jobs := by decide +kernel
    refine ⟨rfl, routed, ?_⟩
    rw [pairs_listRequest inside]
    cases limit <;> rfl
  limited offset := by
    rw [pairs_listRequest inside]
    cases limit <;> rfl
  offset offset natural fits := by
    have value : queryValue (listRequest limit offset).pairs "offset" =
        some (Text.padded 0 offset.toNat) := by
      rw [pairs_listRequest inside]
      cases limit <;> rfl
    rw [Request.offset, value, pageOffset_padded (by omega)]
    omega

/-- What the listing of a store shows, call by call and request by request. -/
structure Paged (store : Store) : Prop where
  /-- Two pages that follow one another make up one longer page. -/
  adjoining : ∀ first second offset : Int, 0 ≤ first → 0 ≤ second → 0 ≤ offset →
    ∃ one other, store.Lists first offset one ∧ store.Lists second (offset + first) other ∧
      store.Lists (first + second) offset (one ++ other)
  /-- A limit that is not below the number of jobs lists everything. -/
  whole : ∀ limit offset, (store.jobs.values.length : Int) ≤ limit → offset ≤ 0 →
    store.Lists limit offset store.listing
  /-- That is the summaries of all stored jobs. -/
  complete : store.listing.Perm (store.jobs.values.map Job.summary)
  /-- A summary gives the identifier, the type, the status, the retries used, the worker and the
  time of creation from the record. -/
  shown : ∀ summary, summary ∈ store.listing ↔ ∃ id job, store.jobs.get? id = some job ∧ summary = {
    id := job.id
    jobType := job.jobType
    status := job.status
    retryCount := job.retryCount
    workerId := job.workerId
    createdAt := job.createdAt }
  /-- Each job is listed once. -/
  once : (store.listing.map (·.id)).Nodup
  /-- The jobs stand in strictly decreasing order of creation and identifier. -/
  ordered : store.listing.Pairwise JobSummary.Newer
  /-- A limit that is not positive lists nothing. -/
  nothing : ∀ limit offset, limit ≤ 0 → store.Lists limit offset []
  /-- A negative offset counts as none. -/
  negative : ∀ limit offset, offset ≤ 0 →
    ∃ page, store.Lists limit offset page ∧ store.Lists limit 0 page
  /-- Every request for the list is answered with a limit from one to a hundred, an offset that is
  not negative, and the jobs of the page that these describe. -/
  served : ∀ dispatcher up queue (request : Request), request.IsListing → ∀ now fresh,
    ∃ response page, (respond dispatcher request).alone up [.effective now fresh] ⟨store, queue⟩ =
        some (response, ⟨store, queue⟩) ∧
      Page.ofResponse? response = some page ∧ 1 ≤ page.limit ∧ page.limit ≤ 100 ∧
      0 ≤ page.offset ∧ store.Lists page.limit page.offset page.jobs
  /-- A walk through the pages, whatever the text of the limit, comes to an end after one request for
  each job at most and one more, and shows everything; a table has fewer than 2^63 records. -/
  walked : ∀ dispatcher up queue ask limit clock, AsksPages ask limit →
    store.jobs.values.length < 0x8000000000000000 → ∀ fuel, store.jobs.values.length < fuel →
      walk dispatcher up ask clock fuel 0 ⟨store, queue⟩ = some (store.listing, ⟨store, queue⟩)
  /-- Every text of a limit can be asked with. -/
  asked : ∀ limit : Option String, (∀ text ∈ limit, '&' ∉ text.toList) →
    AsksPages (listRequest limit) (limit.map fun text => Target.formText text.toList)

/-- The listing of an available store shows what is expected of it after any operations on the store
without records. -/
theorem paged_after (operations : List Operation)
    (available : (Ledger.empty.after operations).store.available) :
    Paged (Ledger.empty.after operations).store := by
  have keyed := (Ledger.sound_operations Ledger.sound_empty operations).keyed
  generalize (Ledger.empty.after operations).store = store at available keyed
  have lists := Store.lists_page available
  exact {
    adjoining := fun first second offset one other start =>
      ⟨_, _, lists first offset, lists second (offset + first),
        Store.page_append one other start ▸ lists (first + second) offset⟩
    whole := fun limit offset enough start => Store.page_all enough start ▸ lists limit offset
    complete := store.listing_perm
    shown := fun _ => Store.mem_listing_iff
    once := Store.nodup_listing keyed
    ordered := Store.pairwise_listing keyed
    nothing := fun limit offset none => Store.page_nil none offset ▸ lists limit offset
    negative := fun limit offset negative =>
      ⟨_, Store.page_negative limit negative ▸ lists limit offset, lists limit 0⟩
    served := fun dispatcher up queue request isListing now fresh => by
      have bounds := pageLimit_bounds (queryValue request.pairs "limit")
      have start := pageOffset_bounds (queryValue request.pairs "offset")
      exact ⟨_, _, isListing.alone available up now fresh,
        Page.ofResponse?_response ⟨Int.le_trans (by decide) bounds.1, bounds.2⟩ start, bounds.1,
        bounds.2, start.1, lists _ _⟩
    walked := fun dispatcher up queue ask limit clock asks few fuel enough =>
      walk_eq asks available few (Nat.zero_le _) enough
    asked := fun limit inside => asksPages_listRequest inside }

/-- The listing of three jobs, two of which were submitted at the same time. -/
theorem paged_of_setBack :
    (Ledger.empty.after Ledger.setBack).store.available ∧
      (Ledger.empty.after Ledger.setBack).store.jobs.values.length = 3 ∧
      Paged (Ledger.empty.after Ledger.setBack).store :=
  ⟨by decide +kernel, by decide +kernel, paged_after Ledger.setBack (by decide +kernel)⟩

end Http

end JobDispatch
