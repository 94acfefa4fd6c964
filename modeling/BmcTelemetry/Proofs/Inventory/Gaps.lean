import BmcTelemetry.Proofs.Inventory.Paging
import BmcTelemetry.Proofs.Inventory.Reading

/-!
Short pages: what the buffer holds when an answer brings fewer bytes than its page has.

Every byte that arrives is written where it belongs, and all others stay zero. The next page is
asked for where it starts in any case, so a page that comes in short leaves a gap behind it.
-/

namespace BmcTelemetry.Inventory

namespace ProductArea

variable {area : ProductArea} {image contents : Bytes}

/-- A byte at some place of the area was written from the answer to one of the pages. -/
def Received (area : ProductArea) (starts : List Nat) (exchanges : List (Exchange controller))
    (place : Nat) : Prop :=
  ∃ (number index : Nat) (exchange : Exchange controller) (page : Bytes),
    starts[number]? = some index ∧ exchanges[number]? = some exchange ∧
      exchange.Carries 1 page ∧ index ≤ place ∧ place < index + area.written index page

/-- Without any exchanges nothing is received. -/
theorem not_received_nil {starts : List Nat} {place : Nat} : ¬ area.Received starts [] place := by
  -- There is no exchange of any number.
  rintro ⟨number, index, exchange, page, _, missing, _⟩
  simp at missing

/-- What is received is in the first page or in one of the others. -/
theorem received_cons_iff {index : Nat} {starts : List Nat} {exchange : Exchange controller}
    {others : List (Exchange controller)} {page : Bytes} (carries : exchange.Carries 1 page)
    {place : Nat} :
    area.Received (index :: starts) (exchange :: others) place ↔
      (index ≤ place ∧ place < index + area.written index page) ∨
        area.Received starts others place := by
  constructor
  · rintro ⟨number, start, answered, found, starting, listed, brings, reached⟩
    -- Either the byte came with the first answer, or its own one is among the others.
    cases number with
    | zero =>
      obtain rfl : index = start := by simpa using starting
      obtain rfl : exchange = answered := by simpa using listed
      obtain rfl := carries.unique brings
      exact .inl reached
    | succ number => exact .inr ⟨number, start, answered, found, starting, listed, brings, reached⟩
  -- A byte of the first page has the number zero, and any other one moves on by one.
  · rintro (reached | ⟨number, start, answered, found, starting, listed, brings, reached⟩)
    · exact ⟨0, index, exchange, page, rfl, rfl, carries, reached⟩
    · exact ⟨number + 1, start, answered, found, starting, listed, brings, reached⟩

/-- Nothing is received of a page that fails. -/
theorem not_received_stopped {starts : List Nat} {exchange : Exchange controller}
    (failed : ∀ page, ¬ exchange.Carries 1 page) {place : Nat} :
    ¬ area.Received starts [exchange] place := by
  rintro ⟨number, index, answered, page, _, listed, brings, _⟩
  -- The only exchange is the one that fails, and it carries no page.
  cases number with
  | zero =>
    obtain rfl : exchange = answered := by simpa using listed
    exact failed page brings
  | succ number => simp at listed

/-- A page that brings the first bytes that there are at its place, or some of them. -/
structure Front (area : ProductArea) (contents : Bytes) (index : Nat) (page : Bytes) : Prop where
  /-- There is a byte at least. -/
  nonempty : 0 < area.written index page
  /-- There are no more bytes than a page has. -/
  short : area.written index page ≤ 16
  /-- All of them lie inside the area. -/
  room : index + area.written index page ≤ area.size
  /-- The contents have the same bytes in this place. -/
  own : area.pageBytes index page = contents.slice index (area.written index page)

/-- Whatever the pages bring is what the contents have in their places. -/
def Truthful (area : ProductArea) (contents : Bytes) (starts : List Nat)
    (exchanges : List (Exchange controller)) : Prop :=
  ∀ (number index : Nat) (exchange : Exchange controller) (page : Bytes),
    starts[number]? = some index → exchanges[number]? = some exchange →
      exchange.Carries 1 page → area.Front contents index page

/-- What is received of the contents lies inside them. -/
theorem Received.lt_length {starts : List Nat} {exchanges : List (Exchange controller)}
    {place : Nat} (received : area.Received starts exchanges place)
    (truthful : area.Truthful contents starts exchanges) : place < contents.length := by
  -- The byte is one of a page, and all that a page brings is in the contents.
  obtain ⟨number, index, exchange, page, started, listed, carries, _, reached⟩ := received
  have front := truthful number index exchange page started listed carries
  have nonempty := front.nonempty
  -- The contents have as many bytes there as are written.
  have length := length_pageBytes area index page
  rw [front.own, Bytes.slice, List.length_take, List.length_drop] at length
  omega

namespace ReadsPages

variable {starts : List Nat} {buffer bytes : Bytes} {exchanges : List (Exchange controller)}

/-- The buffer ends up with the contents where they were received, and unchanged elsewhere. -/
theorem getElem?_eq (reads : area.ReadsPages starts buffer exchanges bytes)
    (sized : buffer.length = area.size) (truthful : area.Truthful contents starts exchanges)
    (place : Nat) :
    (area.Received starts exchanges place → bytes[place]? = contents[place]?) ∧
      (¬ area.Received starts exchanges place → bytes[place]? = buffer[place]?) := by
  -- A later page may write over an earlier one, but both have the bytes of the contents.
  induction reads with
  -- Nothing is received in these two cases, and the buffer stays as it was.
  | finished buffer => exact ⟨fun received => absurd received not_received_nil, fun _ => rfl⟩
  | stopped buffer asked failed =>
    exact ⟨fun received => absurd received (not_received_stopped failed), fun _ => rfl⟩
  -- The first page is written, and what follows is a read into the buffer it has become.
  | @page index rest exchange others buffer page bytes asked carries onward ih =>
    have front := truthful 0 index exchange page rfl rfl carries
    have length : (area.pageBytes index page).length = area.written index page :=
      length_pageBytes area index page
    have inside : index + (area.pageBytes index page).length ≤ buffer.length := by
      rw [length, sized]
      exact front.room
    have resized : (buffer.patch index (area.pageBytes index page)).length = area.size := by
      rw [Bytes.length_patch]
      omega
    -- What the rest of the pages do to a byte is known from the smaller read.
    obtain ⟨later, never⟩ := ih resized fun number => truthful (number + 1)
    rw [received_cons_iff carries]
    -- Three cases are left: a later page brings the byte, this page does, or none does.
    by_cases again : area.Received rest others place
    · exact ⟨fun _ => later again, fun missed => absurd (.inr again) missed⟩
    by_cases here : index ≤ place ∧ place < index + area.written index page
    · refine ⟨fun _ => ?_, fun missed => absurd (.inl here) missed⟩
      rw [never again, Bytes.getElem?_patch_inside inside here.1 (by omega), front.own,
        Bytes.slice, List.getElem?_take_of_lt (by omega), List.getElem?_drop]
      congr 1
      omega
    · refine ⟨fun received => absurd received (not_or.mpr ⟨here, again⟩), fun _ => ?_⟩
      rw [never again, Bytes.getElem?_patch_outside inside (by rwa [length])]

/-- Every page but the last one that is asked for has brought something. -/
theorem carries_of_next (reads : area.ReadsPages starts buffer exchanges bytes) {number : Nat}
    {exchange next : Exchange controller} (listed : exchanges[number]? = some exchange)
    (further : exchanges[number + 1]? = some next) : ∃ page, exchange.Carries 1 page := by
  -- A read goes on only after a page that has brought something.
  induction reads generalizing number with
  | finished buffer => simp at listed
  | stopped buffer asked failed => simp at further
  | @page index rest first others buffer page bytes asked carries onward ih =>
    -- Either the exchange is the first of the read, or it is one of the others.
    cases number with
    | zero =>
      obtain rfl : first = exchange := by simpa using listed
      exact ⟨page, carries⟩
    | succ number => exact ih listed further

end ReadsPages

/-- No page that comes in short is followed by one that brings something. -/
def Unbroken (area : ProductArea) (exchanges : List (Exchange controller)) : Prop :=
  ∀ (number : Nat) (exchange next : Exchange controller) (page following : Bytes),
    exchanges[number]? = some exchange → exchanges[number + 1]? = some next →
      exchange.Carries 1 page → next.Carries 1 following → area.written (16 * number) page = 16

/-- What is received has no gaps: with a byte come all those before it. -/
def Gapless (area : ProductArea) (exchanges : List (Exchange controller)) : Prop :=
  ∀ earlier later, earlier < later → area.Received area.pageStarts exchanges later →
    area.Received area.pageStarts exchanges earlier

section Paged

variable {bytes : Bytes} {exchanges : List (Exchange controller)}

/-- A byte that is received is one of the contents, and any other byte is zero. -/
theorem Paged.getElem?_eq (paged : area.Paged exchanges bytes)
    (truthful : area.Truthful contents area.pageStarts exchanges) {place : Nat}
    (inside : place < area.size) :
    (area.Received area.pageStarts exchanges place → bytes[place]? = contents[place]?) ∧
      (¬ area.Received area.pageStarts exchanges place → bytes[place]? = some 0) := by
  obtain ⟨arrived, missed⟩ := paged.reads.getElem?_eq List.length_replicate truthful place
  refine ⟨arrived, fun never => ?_⟩
  -- Before the first page all of the buffer is zero.
  rw [missed never, List.getElem?_replicate, if_pos inside]

/-- Without gaps, every page in front of another one is full. -/
theorem Paged.unbroken (paged : area.Paged exchanges bytes)
    (truthful : area.Truthful contents area.pageStarts exchanges)
    (gapless : area.Gapless exchanges) : area.Unbroken exchanges := by
  intro number exchange next page following listed further carries brings
  -- An exchange of some number asks for the page of that number.
  have started : ∀ {number : Nat} {exchange : Exchange controller},
      exchanges[number]? = some exchange → area.pageStarts[number]? = some (16 * number) :=
    fun listed => (getElem?_pageStarts area _ _).mpr ⟨rfl, (paged.pages _ _ listed).inside⟩
  -- The next page brings one byte at least, and that is its first one.
  have arrives := (truthful _ _ next following (started further) further brings).nonempty
  -- The first byte of the next page comes with the last byte of this one.
  have first : area.Received area.pageStarts exchanges (16 * (number + 1)) :=
    ⟨number + 1, _, next, following, started further, further, brings, Nat.le_refl _, by omega⟩
  -- Without gaps the byte in front of it is received as well, from some page.
  obtain ⟨other, index, answered, own, placed, found, carried, starts, reaches⟩ :=
    gapless (16 * number + 15) _ (by omega) first
  obtain ⟨rfl, _⟩ := (getElem?_pageStarts area _ _).mp placed
  have short := (truthful _ _ answered own placed found carried).short
  -- Pages are sixteen bytes apart, so that no other page can have brought it.
  obtain rfl : other = number := by omega
  obtain rfl : exchange = answered := Option.some.inj (listed.symm.trans found)
  obtain rfl := carries.unique carried
  omega

/-- Where every page in front of another one is full, there are no gaps. -/
theorem Paged.gapless (paged : area.Paged exchanges bytes) (unbroken : area.Unbroken exchanges) :
    area.Gapless exchanges := by
  -- With a page that brings a byte, every page in front of it was full.
  rintro earlier later before ⟨number, index, exchange, page, started, listed, carries, starts,
    reaches⟩
  -- The byte is in a page, which is the one of the earlier byte or lies behind it.
  obtain ⟨rfl, inside⟩ := (getElem?_pageStarts area _ _).mp started
  by_cases same : 16 * number ≤ earlier
  · exact ⟨number, _, exchange, page, started, listed, carries, same, by omega⟩
  -- The earlier byte is in a page in front, behind which another one brings something.
  have many : number < exchanges.length := (List.getElem?_eq_some_iff.mp listed).1
  -- The pages are asked for in order, so those in front of this one were asked for too.
  obtain ⟨own, found⟩ : ∃ own, exchanges[earlier / 16]? = some own :=
    ⟨_, List.getElem?_eq_getElem (by omega)⟩
  obtain ⟨next, further⟩ : ∃ next, exchanges[earlier / 16 + 1]? = some next :=
    ⟨_, List.getElem?_eq_getElem (by omega)⟩
  obtain ⟨brought, brings⟩ := paged.reads.carries_of_next found further
  -- The page behind that of the earlier byte brings something, as the last one or before it.
  obtain ⟨following, carried⟩ : ∃ following, next.Carries 1 following := by
    by_cases last : earlier / 16 + 1 = number
    · rw [last] at further
      obtain rfl : exchange = next := Option.some.inj (listed.symm.trans further)
      exact ⟨page, carries⟩
    · exact paged.reads.carries_of_next further (List.getElem?_eq_getElem (by omega))
  -- A full page has all sixteen bytes, and the earlier one is among them.
  have full := unbroken _ own next brought following found further brings carried
  exact ⟨earlier / 16, 16 * (earlier / 16), own, brought,
    (getElem?_pageStarts area _ _).mpr ⟨rfl, by omega⟩, found, brings, by omega, by omega⟩

end Paged

/-- Numbers that come with all smaller ones are those below some bound. -/
theorem exists_bound {member : Nat → Prop}
    (closed : ∀ earlier later, earlier < later → member later → member earlier) (size : Nat) :
    ∃ count ≤ size, ∀ place < size, member place ↔ place < count := by
  induction size with
  -- Below zero there is nothing to compare.
  | zero => exact ⟨0, Nat.le_refl 0, fun place below => absurd below (Nat.not_lt_zero place)⟩
  | succ size ih =>
    obtain ⟨count, bounded, below⟩ := ih
    by_cases last : member size
    · -- With the last number all the others are there.
      refine ⟨size + 1, Nat.le_refl _, fun place inside => ⟨fun _ => inside, fun _ => ?_⟩⟩
      by_cases same : place = size
      · rwa [same]
      · exact closed place size (by omega) last
    -- Without the last number the bound is that of the smaller range.
    · refine ⟨count, by omega, fun place inside => ?_⟩
      by_cases same : place = size
      · subst same
        exact ⟨fun there => absurd there last, fun less => absurd less (by omega)⟩
      · exact below place (by omega)

/-- Bytes that are those of the contents up to a bound, and zero behind it. -/
theorem eq_take_append_zeros {bytes : Bytes} {size count : Nat} (sized : bytes.length = size)
    (held : count ≤ contents.length) (bounded : count ≤ size)
    (front : ∀ place < count, bytes[place]? = contents[place]?)
    (back : ∀ place < size, count ≤ place → bytes[place]? = some 0) :
    bytes = contents.take count ++ List.replicate (size - count) 0 := by
  have cut : (contents.take count).length = count := List.length_take_of_le held
  -- The two lists are compared place by place, in front of the bound and behind it.
  apply List.ext_getElem?
  intro place
  by_cases before : place < count
  -- In front of the bound both have the bytes of the contents.
  · rw [List.getElem?_append_left (by omega), List.getElem?_take_of_lt before, front place before]
  rw [List.getElem?_append_right (by omega), cut, List.getElem?_replicate]
  -- Behind it both have zeros, as far as the area goes, and then nothing.
  by_cases inside : place < size
  · rw [back place inside (by omega), if_pos (by omega)]
  · rw [List.getElem?_eq_none (by omega), if_neg (by omega)]

/-- A read without gaps gives the front of the contents, and then zeros. -/
theorem Paged.eq_take_append_zeros {bytes : Bytes} {exchanges : List (Exchange controller)}
    (paged : area.Paged exchanges bytes)
    (truthful : area.Truthful contents area.pageStarts exchanges)
    (gapless : area.Gapless exchanges) :
    ∃ count ≤ contents.length,
      bytes = contents.take count ++ List.replicate (area.size - count) 0 := by
  -- The bytes that are received are closed downwards, so they end at one place.
  obtain ⟨count, bounded, below⟩ := exists_bound gapless area.size
  -- The last byte that is received is one of the contents.
  have held : count ≤ contents.length := by
    by_cases none : count = 0
    · omega
    · have last := (below (count - 1) (by omega)).mpr (by omega)
      have inside := last.lt_length truthful
      omega
  refine ⟨count, held, ProductArea.eq_take_append_zeros paged.sized held bounded
    (fun place before => ?_) (fun place inside behind => ?_)⟩
  -- In front of that place all bytes are received, and they are those of the contents.
  · have inside : place < area.size := by omega
    exact (paged.getElem?_eq truthful inside).1 ((below place inside).mpr before)
  -- Behind it none is received, and the buffer was zero there.
  · refine (paged.getElem?_eq truthful inside).2 fun received => ?_
    have before := (below place inside).mp received
    omega

end ProductArea

/-- Each part of an image that is asked for comes as some of its first bytes, or not at all. -/
def HandsPrefixes (image : Bytes) (unit : Nat) (exchange : Exchange controller) : Prop :=
  ∀ address count, address < 65536 → count < 256 →
    exchange.request = ProductArea.readRequest address count →
    (∀ page, ¬ exchange.Carries 1 page) ∨ ∃ handed : Bytes, handed ≠ [] ∧
      handed <+: image.slice (address * unit) count ∧ exchange.Carries 1 (counted handed)

namespace ProductArea

variable {area : ProductArea} {image : Bytes}

/-- What such an answer brings of a page are first bytes of it. -/
theorem Paged.front {bytes : Bytes} {exchanges : List (Exchange controller)}
    (paged : area.Paged exchanges bytes) {number : Nat} {exchange : Exchange controller}
    (listed : exchanges[number]? = some exchange)
    (hands : HandsPrefixes image area.unit exchange) {page : Bytes}
    (carries : exchange.Carries 1 page) :
    area.Front (image.slice area.start area.size) (16 * number) page := by
  -- The request is for the place and the size of the page, so the answer is about that slice.
  have asks := paged.pages number exchange listed
  have inside := asks.inside
  have narrow := asks.narrow
  have reached := Nat.div_le_self (area.start + 16 * number) area.unit
  have addressed := asks.addressed
  rw [asks.asked, (readRequest_data (by omega) (by omega)).1] at addressed
  -- Either the page fails, which it does not, or it is a prefix of that slice.
  rcases hands _ _ (by omega) (by omega) asks.asked with failed | ⟨handed, nonempty, starts, brings⟩
  · exact absurd carries (failed page)
  obtain rfl := carries.unique brings
  rw [addressed] at starts
  have most := starts.length_le
  rw [Bytes.slice, List.length_take] at most
  -- The count that is sent is that of the prefix, and it has room in the area.
  have whole : area.pageBytes (16 * number) (counted handed) = handed :=
    pageBytes_counted (by omega) (by omega)
  have length : area.written (16 * number) (counted handed) = handed.length := by
    rw [← length_pageBytes, whole]
  have positive := List.length_pos_iff.mpr nonempty
  refine ⟨by omega, by omega, by omega, ?_⟩
  -- A prefix is as many first bytes of the page as it has.
  rw [whole, length, Bytes.slice_slice image (by omega), Bytes.slice]
  have cut := List.prefix_iff_eq_take.mp starts
  rwa [Bytes.slice, List.take_take, Nat.min_eq_left (by omega)] at cut

/--
An area is read without a gap exactly when no short page is followed by another one.

In any case a byte that was received is the one of the image, and any other byte is zero. A read
without a gap gives the front of the area and then zeros.
-/
theorem read_gapless_iff (host : String) {inventorySize : Nat}
    (within : area.Within inventorySize) {σ : Type} {handler : Dialogue.Handler controller σ} {memory : σ}
    (hands : ∀ exchange ∈ (area.read host).transcript handler memory,
      HandsPrefixes image area.unit exchange) :
    let exchanges := (area.read host).transcript handler memory
    let bytes := ((area.read host).run handler memory).1
    let contents := image.slice area.start area.size
    (∀ place < area.size,
      (area.Received area.pageStarts exchanges place → bytes[place]? = contents[place]?) ∧
        (¬ area.Received area.pageStarts exchanges place → bytes[place]? = some 0)) ∧
    ((∃ count ≤ contents.length,
          bytes = contents.take count ++ List.replicate (area.size - count) 0) ∧
        area.Gapless exchanges ↔ area.Unbroken exchanges) := by
  intro exchanges bytes contents
  have paged : area.Paged exchanges bytes := within.paged (Dialogue.course_run handler _ memory)
  -- Every page that the read got is one that the surroundings handed out.
  have truthful : area.Truthful contents area.pageStarts exchanges := by
    intro number index exchange page started listed carries
    obtain ⟨rfl, _⟩ := (getElem?_pageStarts area _ _).mp started
    exact paged.front listed (hands exchange (List.mem_of_getElem? listed)) carries
  refine ⟨fun place inside => paged.getElem?_eq truthful inside, ?_⟩
  -- Short pages in front of others are exactly what makes a gap.
  constructor
  · rintro ⟨_, gapless⟩
    exact paged.unbroken truthful gapless
  · intro unbroken
    have gapless := paged.gapless unbroken
    exact ⟨paged.eq_take_append_zeros truthful gapless, gapless⟩

/-- An area of forty bytes behind the common header, addressed byte by byte. -/
def labelArea : ProductArea := { start := 8, size := 40, unit := 1 }

/-- An image with such an area; its second field begins with the last byte of the first page. -/
def labelImage : Bytes :=
  [0x01, 0x00, 0x00, 0x00, 0x01, 0x00, 0x00, 0xfe]
    ++ [0x01, 0x05, 0x19] ++ Field.ofText "Acme Server" ++ Field.ofText "A1B20C123"
    ++ Field.ofText "PN" ++ Field.ofText "V1" ++ Field.ofText "SN7" ++ [0xc1, 0x00, 0x00, 0x00, 0x4c]

/-- Surroundings that hand out so many bytes at once, and nothing from some place on. -/
def handingAtMost (limit readable : Nat) (image : Bytes) : Dialogue.Handler controller Unit :=
  fun request memory =>
    let address := (request.data.wordAt 3).toNat
    let handed := image.slice address (min (request.data.byteAt 5).toNat limit)
    if address < readable ∧ handed ≠ [] then (.ok (.answered (0x00 :: counted handed)), memory)
    else (.ok (.answered [0xcb]), memory)

/-- Whatever such surroundings hand out are first bytes of what is asked for. -/
theorem handsPrefixes_handingAtMost {limit readable : Nat} {host : String} :
    ∀ exchange ∈ (area.read host).transcript (handingAtMost limit readable image) (),
      HandsPrefixes image 1 exchange := by
  intro exchange member address count reached short asked
  -- Every answer is what such surroundings give, with or without a page.
  obtain ⟨_, answered⟩ := Dialogue.transcript_answered _ _ () exchange member
  change exchange.answer = (handingAtMost limit readable image exchange.request ()).1 at answered
  obtain ⟨addressRead, countRead⟩ := readRequest_data reached short
  rw [asked] at answered
  simp only [handingAtMost, addressRead, countRead] at answered
  -- Either something is handed out, which starts the part that was asked for, or it is refused.
  split at answered
  · next handed =>
    refine .inr ⟨_, handed.2, ?_, true, answered, Nat.le_add_left 1 _⟩
    rw [Nat.mul_one, Bytes.slice, Bytes.slice]
    exact List.take_prefix_take_left (Nat.min_le_left _ _)
  -- A refusal carries no page.
  · refine .inl ?_
    rintro page ⟨valid, succeeded, _⟩
    rw [answered] at succeeded
    cases succeeded

/-- The area lies inside the image. -/
theorem labelArea_within : labelArea.Within labelImage.length := by
  -- All parts of the condition are about closed numbers.
  refine ⟨by decide, by decide +kernel, by decide, by decide +kernel, by decide, by decide⟩

/-- Two whole pages before one that fails give the front of the area, and then zeros. -/
theorem read_gapless_iff_twoPages :
    labelArea.Within labelImage.length ∧
      (∀ exchange ∈ (labelArea.read "bmc").transcript (handingAtMost 16 40 labelImage) (),
        HandsPrefixes labelImage labelArea.unit exchange) ∧
      ∃ count ≤ 40, ((labelArea.read "bmc").run (handingAtMost 16 40 labelImage) ()).1
        = (labelImage.slice labelArea.start labelArea.size).take count
          ++ List.replicate (labelArea.size - count) 0 := by
  have hands : ∀ exchange ∈
      (labelArea.read "bmc").transcript (handingAtMost 16 40 labelImage) (),
      HandsPrefixes labelImage labelArea.unit exchange := handsPrefixes_handingAtMost
  refine ⟨labelArea_within, hands, ?_⟩
  have measured : (labelImage.slice labelArea.start labelArea.size).length = 40 := by
    decide +kernel
  rw [← measured]
  refine ((read_gapless_iff "bmc" labelArea_within hands).2.mpr ?_).1
  -- The answers are computed, and there are three of them.
  have answers : ((labelArea.read "bmc").transcript (handingAtMost 16 40 labelImage) ()).map
      (·.answer) = [.ok (.answered (0x00 :: counted (labelImage.slice 8 16))),
        .ok (.answered (0x00 :: counted (labelImage.slice 24 16))), .ok (.answered [0xcb])] := by
    decide +kernel
  -- Only the third page is no full one, and it brings nothing.
  intro number exchange next page following listed further carries brings
  have answered := congrArg (·[number]?) answers
  have answeredNext := congrArg (·[number + 1]?) answers
  simp only [List.getElem?_map, listed, further, Option.map_some] at answered answeredNext
  obtain ⟨_, carried, _⟩ := carries
  obtain ⟨_, brought, _⟩ := brings
  rw [carried] at answered
  rw [brought] at answeredNext
  -- The first page is full, and behind it there is none that brings something.
  rcases number with _ | _ | number
  · cases answered
    decide +kernel
  · cases answeredNext
  · cases answeredNext

/--
Answers that lack the last byte of each page leave a gap behind each.

The byte that is lost first tells how long the second field is, so that what is found as the serial
number is not the one of the image.
-/
theorem read_leaves_gaps :
    labelArea.Within labelImage.length ∧
      (∀ exchange ∈ (labelArea.read "bmc").transcript (handingAtMost 15 48 labelImage) (),
        HandsPrefixes labelImage labelArea.unit exchange) ∧
      (¬ ∃ count, ((labelArea.read "bmc").run (handingAtMost 15 48 labelImage) ()).1
        = (labelImage.slice labelArea.start labelArea.size).take count
          ++ List.replicate (labelArea.size - count) 0) ∧
      field? ((labelArea.read "bmc").run (handingAtMost 15 48 labelImage) ()).1 4 = some "123" ∧
      field? (labelImage.slice labelArea.start labelArea.size) 4 = some "SN7" := by
  -- The two serial numbers are computed, and what is left is that no bound fits.
  refine ⟨labelArea_within, handsPrefixes_handingAtMost, ?_, by decide +kernel, by decide +kernel⟩
  rintro ⟨count, same⟩
  -- The seventeenth byte is there, and the sixteenth is not.
  have arrived : ((labelArea.read "bmc").run (handingAtMost 15 48 labelImage) ()).1[16]?
      = some 0x41 := by decide +kernel
  have missing : ((labelArea.read "bmc").run (handingAtMost 15 48 labelImage) ()).1[15]?
      = some 0x00 := by decide +kernel
  have held : (labelImage.slice labelArea.start labelArea.size)[15]? = some 0xc9 := by
    decide +kernel
  have measured : (labelImage.slice labelArea.start labelArea.size).length = 40 := by
    decide +kernel
  rw [same] at arrived missing
  -- With sixteen bytes at most the seventeenth would be zero, and with more the sixteenth would not
  -- be.
  by_cases before : count ≤ 16
  · rw [List.getElem?_append_right (by rw [List.length_take]; omega), List.getElem?_replicate]
      at arrived
    split at arrived <;> cases arrived
  · rw [List.getElem?_append_left (by rw [List.length_take]; omega),
      List.getElem?_take_of_lt (by omega), held] at missing
    cases missing

end ProductArea

end BmcTelemetry.Inventory
