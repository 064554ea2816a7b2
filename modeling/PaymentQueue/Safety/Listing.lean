import Mathlib.Data.List.Perm.Basic
import PaymentQueue.Payments.Inspection
import PaymentQueue.Safety.Routing

/-!
# Completeness of the dead letter listing

`listDlq` reads one page of 201 positions for each state, and the filter is
applied to what the page shows.  The sort of the page throws when it looks for
the date of a payment job, which has none.
-/

namespace PaymentQueue.Listing

open Await Sorting QueueManager PaymentService QueuesController Routing

/-- A dead-lettered payment that the filter asks for. -/
def Wanted (get : PaymentId → Option PaymentRecord)
    (gatewayId : Option String) (id : PaymentId) : Prop :=
  gatewayId = none ∨ gatewayId = some "" ∨
    (get id).map PaymentRecord.gatewayId = gatewayId

instance (get : PaymentId → Option PaymentRecord)
    (gatewayId : Option String) : DecidablePred (Wanted get gatewayId) :=
  fun _ => inferInstanceAs (Decidable (_ ∨ _ ∨ _))

/-- One entry for each wanted payment that was routed to the dead letter
queue, with its record, in the order of `deadLetteredAt`. -/
structure Complete (dead : List DlqEntry)
    (get : PaymentId → Option PaymentRecord) (gatewayId : Option String)
    (response : DeadLetterList) : Prop where
  count : response.count = response.entries.length
  once : (response.entries.map DeadLetter.paymentId).Nodup
  exact : ∀ id, id ∈ response.entries.map DeadLetter.paymentId ↔
    id ∈ dead.map DlqEntry.paymentId ∧ Wanted get gatewayId id
  paired : ∀ letter ∈ response.entries,
    letter.payment = get letter.paymentId ∧
      ∃ entry ∈ dead, entry.paymentId = letter.paymentId ∧
        letter.reason = some entry.reason ∧
        letter.deadLetteredAt = some entry.deadLetteredAt
  ordered : response.entries.Pairwise fun first second =>
    ∀ earlier ∈ first.deadLetteredAt, ∀ later ∈ second.deadLetteredAt,
      earlier ≤ later

/-- The sequences of the dead letter queue.  Only a job with a priority can be
in a state that is not listed. -/
structure Lays (world : World) (layout : Layout) : Prop where
  nodup : ((listedStates.flatMap layout).map QueuedJob.id).Nodup
  stored : ∀ job ∈ listedStates.flatMap layout, ∃ stored,
    world.queues dlqQueueName job.id = some stored ∧ stored.data = job.data
  listed : ∀ id stored, world.queues dlqQueueName id = some stored →
    stored.options.priority = 0 →
    ⟨id, stored.data⟩ ∈ listedStates.flatMap layout

/-- The jobs on the page that `listDlq` reads. -/
def page (layout : Layout) : List QueuedJob :=
  getJobs layout listedStates 0 200

/-- The jobs behind that page. -/
def hidden (layout : Layout) : List QueuedJob :=
  listedStates.flatMap fun state => (layout state).drop 201

theorem mem_hidden {layout : Layout} {job : QueuedJob} :
    job ∈ hidden layout ↔ ∃ state, job ∈ (layout state).drop 201 := by
  rw [hidden, List.mem_flatMap]
  constructor
  · rintro ⟨state, -, member⟩
    exact ⟨state, member⟩
  · rintro ⟨state, member⟩
    exact ⟨state, by cases state <;> decide, member⟩

/-- The page and what lies behind it are all that is listed. -/
theorem page_hidden_perm (layout : Layout) :
    (page layout ++ hidden layout).Perm (listedStates.flatMap layout) := by
  have split := List.flatMap_append_perm listedStates
    (fun state => (layout state).take 201)
    (fun state => (layout state).drop 201)
  simpa [page, hidden, getJobs] using split

/-- The condition: no wanted entry lies behind the page, each wanted payment
was admitted to the queue, and the page has no payment job, except one that is
there alone and is not wanted. -/
structure Listable (arrivals : List Arrival) (layout : Layout)
    (get : PaymentId → Option PaymentRecord) (gatewayId : Option String) :
    Prop where
  paged : ∀ state, ∀ job ∈ (layout state).drop 201, ∀ entry,
    job.data = .deadLetter entry → ¬ Wanted get gatewayId entry.paymentId
  admitted : ∀ arrival ∈ arrivals,
    Wanted get gatewayId arrival.entry.paymentId →
    ∃ other ∈ arrivals, other.entry.paymentId = arrival.entry.paymentId ∧
      other.admitted = true
  alone : ∀ job ∈ page layout, ∀ data, job.data = .payment data →
    page layout = [job] ∧ ¬ Wanted get gatewayId data.paymentId

/-- What a layout lists of a queue that these entries were routed to. -/
structure Shelved (arrivals : List Arrival) (jobs : List QueuedJob) : Prop where
  nodup : (jobs.map QueuedJob.id).Nodup
  named : ∀ job ∈ jobs, (listed job).paymentId = job.id
  arrived : ∀ job ∈ jobs, ∀ entry, job.data = .deadLetter entry →
    ∃ arrival ∈ arrivals, arrival.entry = entry ∧ arrival.admitted = true
  kept : ∀ arrival ∈ arrivals, arrival.admitted = true →
    ∃ job ∈ jobs, job.id = arrival.entry.paymentId ∧
      ∃ entry, job.data = .deadLetter entry

theorem Shelved.perm {arrivals : List Arrival} {jobs others : List QueuedJob}
    (shelved : Shelved arrivals jobs) (perm : others.Perm jobs) :
    Shelved arrivals others where
  nodup := (perm.map _).nodup_iff.mpr shelved.nodup
  named := fun job member => shelved.named job (perm.mem_iff.mp member)
  arrived := fun job member => shelved.arrived job (perm.mem_iff.mp member)
  kept := by
    intro arrival member admitted
    obtain ⟨job, present, facts⟩ := shelved.kept arrival member admitted
    exact ⟨job, perm.mem_iff.mpr present, facts⟩

theorem Lays.shelved {world : World} {layout : Layout}
    {arrivals : List Arrival} (lays : Lays world layout)
    (holds : Holds arrivals world) :
    Shelved arrivals (page layout ++ hidden layout) := by
  refine Shelved.perm ⟨lays.nodup, ?_, ?_, ?_⟩ (page_hidden_perm layout)
  · intro job member
    obtain ⟨stored, found, same⟩ := lays.stored job member
    have filed := holds.filed job.id stored found
    rw [same] at filed
    cases content : job.data with
    | payment data =>
        rw [content] at filed
        simpa [QueueManager.listed, content] using filed.symm
    | deadLetter entry =>
        rw [content] at filed
        simpa [QueueManager.listed, content] using filed.2.1.symm
  · intro job member entry content
    obtain ⟨stored, found, same⟩ := lays.stored job member
    exact holds.arrived job.id stored entry found (same.trans content)
  · intro arrival member admitted
    obtain ⟨stored, entry, found, content⟩ :=
      holds.kept arrival member admitted
    have filed := holds.filed _ stored found
    rw [content] at filed
    exact ⟨_, lays.listed _ stored found filed.2.2.1, rfl, entry, content⟩

section Response

variable {engine : Engine Thrown ListedEntry} {layout : Layout}
  {get : PaymentId → Option PaymentRecord} {gatewayId : Option String}

/-- The letter that the endpoint returns for an entry. -/
def letterOf (get : PaymentId → Option PaymentRecord) (entry : ListedEntry) :
    DeadLetter :=
  ⟨entry.paymentId, entry.reason, entry.deadLetteredAt, get entry.paymentId⟩

/-- The letters of these entries that the filter asks for. -/
def answer (get : PaymentId → Option PaymentRecord)
    (gatewayId : Option String) (entries : List ListedEntry) :
    DeadLetterList :=
  let letters := (entries.map (letterOf get)).filter fun letter =>
    decide (Wanted get gatewayId letter.paymentId)
  ⟨letters.length, letters⟩

private theorem listDeadLetters_eq (engine : Engine Thrown ListedEntry)
    (layout : Layout) (get : PaymentId → Option PaymentRecord) :
    listDeadLetters engine layout get =
      (listDlq engine layout).map (List.map (letterOf get)) := by
  rw [listDeadLetters]
  cases listDlq engine layout with
  | error error => rfl
  | ok entries =>
      refine congrArg Except.ok (List.ext_getElem? fun index => ?_)
      cases read : entries[index]? <;> simp [letterOf, read]

theorem dlq_eq (engine : Engine Thrown ListedEntry) (layout : Layout)
    (get : PaymentId → Option PaymentRecord) (gatewayId : Option String) :
    dlq engine layout get gatewayId =
      (listDlq engine layout).map (answer get gatewayId) := by
  rw [dlq, listDeadLetters_eq]
  cases listDlq engine layout with
  | error error => rfl
  | ok entries =>
      refine congrArg Except.ok ?_
      have filtered : ∀ letters, letters = (entries.map (letterOf get)).filter
          (fun letter => decide (Wanted get gatewayId letter.paymentId)) →
          (⟨letters.length, letters⟩ : DeadLetterList) =
            answer get gatewayId entries := by
        rintro letters rfl
        rfl
      apply filtered
      cases gatewayId with
      | none =>
          exact (List.filter_eq_self.mpr fun letter _ =>
            decide_eq_true (.inl rfl)).symm
      | some gatewayId =>
          by_cases empty : gatewayId = ""
          · subst empty
            exact (List.filter_eq_self.mpr fun letter _ =>
              decide_eq_true (.inr (.inl rfl))).symm
          · simp only [if_neg empty]
            apply List.filter_congr
            intro letter member
            obtain ⟨entry, -, rfl⟩ := List.mem_map.mp member
            simp [Wanted, empty, letterOf]

/-- A response shows the wanted part of the sorted page. -/
theorem dlq_eq_ok {response : DeadLetterList}
    (returned : dlq engine layout get gatewayId = .ok response) :
    ∃ entries, listDlq engine layout = .ok entries ∧
      entries.Perm ((page layout).map listed) ∧
      response = answer get gatewayId entries := by
  rw [dlq_eq] at returned
  cases sorted : listDlq engine layout with
  | error error =>
      rw [sorted] at returned
      cases returned
  | ok entries =>
      rw [sorted] at returned
      cases returned
      exact ⟨entries, rfl, engine.permutes sorted, rfl⟩

theorem mem_answer {jobs : List QueuedJob} {entries : List ListedEntry}
    (perm : entries.Perm (jobs.map listed)) {letter : DeadLetter} :
    letter ∈ (answer get gatewayId entries).entries ↔
      ∃ job ∈ jobs, letterOf get (listed job) = letter ∧
        Wanted get gatewayId letter.paymentId := by
  simp only [answer, List.mem_filter, decide_eq_true_iff, List.mem_map,
    perm.mem_iff]
  constructor
  · rintro ⟨⟨entry, ⟨job, member, rfl⟩, same⟩, wanted⟩
    exact ⟨job, member, same, wanted⟩
  · rintro ⟨job, member, same, wanted⟩
    exact ⟨⟨_, ⟨job, member, rfl⟩, same⟩, wanted⟩

private theorem mem_answer_ids {jobs : List QueuedJob}
    {entries : List ListedEntry}
    (perm : entries.Perm (jobs.map listed)) {id : PaymentId} :
    id ∈ (answer get gatewayId entries).entries.map DeadLetter.paymentId ↔
      (∃ job ∈ jobs, (listed job).paymentId = id) ∧
        Wanted get gatewayId id := by
  rw [List.mem_map]
  constructor
  · rintro ⟨letter, member, rfl⟩
    obtain ⟨job, onPage, rfl, wanted⟩ := (mem_answer perm).mp member
    exact ⟨⟨job, onPage, rfl⟩, wanted⟩
  · rintro ⟨⟨job, onPage, rfl⟩, wanted⟩
    exact ⟨letterOf get (listed job),
      (mem_answer perm).mpr ⟨job, onPage, rfl, wanted⟩, rfl⟩

end Response

section Completeness

variable {arrivals : List Arrival} {engine : Engine Thrown ListedEntry}
  {layout : Layout} {get : PaymentId → Option PaymentRecord}
  {gatewayId : Option String}

/-- The response of an engine is complete. -/
def Answers (arrivals : List Arrival) (engine : Engine Thrown ListedEntry)
    (layout : Layout) (get : PaymentId → Option PaymentRecord)
    (gatewayId : Option String) : Prop :=
  ∃ response, dlq engine layout get gatewayId = .ok response ∧
    Complete (arrivals.map Arrival.entry) get gatewayId response

/-- What lies behind the page has no other job on the page. -/
theorem not_shown_of_hidden
    (shelved : Shelved arrivals (page layout ++ hidden layout))
    {job other : QueuedJob} (behind : job ∈ hidden layout)
    (onPage : other ∈ page layout) : other.id ≠ job.id := by
  intro same
  have distinct := shelved.nodup
  rw [List.map_append, List.nodup_append'] at distinct
  apply distinct.2.2 (List.mem_map_of_mem onPage)
  rw [same]
  exact List.mem_map_of_mem behind

/-- A wanted job on the page of a complete response is an entry. -/
theorem entry_of_complete {entries : List ListedEntry} {job : QueuedJob}
    (perm : entries.Perm ((page layout).map listed))
    (complete : Complete (arrivals.map Arrival.entry) get gatewayId
      (answer get gatewayId entries))
    (onPage : job ∈ page layout)
    (wanted : Wanted get gatewayId (listed job).paymentId) :
    ∃ entry, job.data = .deadLetter entry := by
  have shown : letterOf get (listed job) ∈
      (answer get gatewayId entries).entries :=
    (mem_answer perm).mpr ⟨job, onPage, rfl, wanted⟩
  obtain ⟨-, entry, -, -, reason, -⟩ := complete.paired _ shown
  cases content : job.data with
  | payment data => simp [letterOf, listed, content] at reason
  | deadLetter entry => exact ⟨entry, rfl⟩

/-- The date of a payment job is looked for when it is compared. -/
theorem alone_of_sorted {entries : List ListedEntry} {job : QueuedJob}
    {data : PaymentJobData} (nodup : ((page layout).map QueuedJob.id).Nodup)
    (sorted : listDlq (.exhaustive Thrown ListedEntry) layout = .ok entries)
    (onPage : job ∈ page layout) (content : job.data = .payment data) :
    page layout = [job] := by
  have single : ∀ other ∈ page layout, other = job := by
    intro other member
    by_contra differ
    have apart : (listed job).jobId ≠ (listed other).jobId := by
      intro same
      have named : ∀ job : QueuedJob, (listed job).jobId = job.id := by
        intro job
        rw [listed]
        split <;> rfl
      rw [named, named] at same
      exact differ (List.inj_on_of_nodup_map nodup member onPage same.symm)
    exact Engine.exhaustive_throws (List.mem_map_of_mem onPage)
      (List.mem_map_of_mem member) (fun same => apart (congrArg _ same))
      (by simp [compareDeadLetteredAt, listed, content]; rfl) entries sorted
  have repeated := List.eq_replicate_iff.mpr ⟨rfl, single⟩
  rw [repeated] at nodup ⊢
  have short := List.nodup_replicate.mp (List.map_replicate ▸ nodup)
  have some := List.length_pos_of_mem onPage
  rw [show (page layout).length = 1 by omega, List.replicate_one]

private theorem listable_of_answers
    (shelved : Shelved arrivals (page layout ++ hidden layout))
    (answers : ∀ engine, Answers arrivals engine layout get gatewayId) :
    Listable arrivals layout get gatewayId := by
  obtain ⟨response, returned, complete⟩ :=
    answers (.exhaustive Thrown ListedEntry)
  obtain ⟨entries, sorted, perm, rfl⟩ := dlq_eq_ok returned
  have nodup : ((page layout).map QueuedJob.id).Nodup := by
    have both := shelved.nodup
    rw [List.map_append] at both
    exact both.of_append_left
  have shown : ∀ arrival ∈ arrivals,
      Wanted get gatewayId arrival.entry.paymentId →
      ∃ job ∈ page layout,
        (listed job).paymentId = arrival.entry.paymentId := by
    intro arrival member wanted
    exact ((mem_answer_ids perm).mp ((complete.exact _).mpr
      ⟨List.mem_map_of_mem (List.mem_map_of_mem member), wanted⟩)).1
  refine ⟨?_, ?_, ?_⟩
  · intro state job member entry content wanted
    have behind := mem_hidden.mpr ⟨state, member⟩
    obtain ⟨arrival, arrived, rfl, -⟩ :=
      shelved.arrived job (List.mem_append_right _ behind) entry content
    obtain ⟨other, onPage, same⟩ := shown arrival arrived wanted
    apply not_shown_of_hidden shelved behind onPage
    rw [← shelved.named other (List.mem_append_left _ onPage), same,
      ← shelved.named job (List.mem_append_right _ behind), listed, content]
  · intro arrival member wanted
    obtain ⟨job, onPage, same⟩ := shown arrival member wanted
    obtain ⟨entry, content⟩ :=
      entry_of_complete perm complete onPage (same ▸ wanted)
    obtain ⟨other, arrived, rfl, admitted⟩ :=
      shelved.arrived job (List.mem_append_left _ onPage) entry content
    refine ⟨other, arrived, ?_, admitted⟩
    rw [← same, listed, content]
  · intro job onPage data content
    refine ⟨alone_of_sorted nodup sorted onPage content, fun wanted => ?_⟩
    obtain ⟨entry, isEntry⟩ := entry_of_complete perm complete onPage
      (by simpa [listed, content] using wanted)
    rw [content] at isEntry
    cases isEntry

/-- Every wanted payment that was routed has its entry on the page. -/
theorem shown_of_listable
    (shelved : Shelved arrivals (page layout ++ hidden layout))
    (listable : Listable arrivals layout get gatewayId) {arrival : Arrival}
    (member : arrival ∈ arrivals)
    (wanted : Wanted get gatewayId arrival.entry.paymentId) :
    ∃ job ∈ page layout, job.id = arrival.entry.paymentId ∧
      ∃ entry, job.data = .deadLetter entry := by
  obtain ⟨other, among, same, admitted⟩ :=
    listable.admitted arrival member wanted
  obtain ⟨job, present, named, entry, content⟩ :=
    shelved.kept other among admitted
  rw [same] at named
  rcases List.mem_append.mp present with onPage | behind
  · exact ⟨job, onPage, named, entry, content⟩
  · obtain ⟨state, later⟩ := mem_hidden.mp behind
    have paymentId := shelved.named job present
    rw [listed, content] at paymentId
    have paymentId : entry.paymentId = job.id := paymentId
    rw [← named, ← paymentId] at wanted
    exact absurd wanted (listable.paged state job later entry content)

/-- The only job on the page is one that the filter leaves out. -/
theorem answers_alone
    (shelved : Shelved arrivals (page layout ++ hidden layout))
    (listable : Listable arrivals layout get gatewayId)
    {job : QueuedJob} {data : PaymentJobData}
    (content : job.data = .payment data) (alone : page layout = [job])
    (unwanted : ¬ Wanted get gatewayId data.paymentId) :
    Answers arrivals engine layout get gatewayId := by
  have sorted : listDlq engine layout = .ok [listed job] := by
    have read : getJobs layout listedStates 0 200 = [job] := alone
    rw [listDlq, read]
    exact engine.sort_singleton _ _
  have none : (answer get gatewayId [listed job]).entries = [] := by
    simpa [answer, letterOf, listed, content] using unwanted
  refine ⟨answer get gatewayId [listed job], by rw [dlq_eq, sorted]; rfl, ?_⟩
  refine ⟨rfl, by simp [none], ?_, by simp [none], by simp [none]⟩
  intro id
  rw [none, List.map_nil]
  refine iff_of_false List.not_mem_nil ?_
  rintro ⟨routed, wanted⟩
  obtain ⟨entry, among, rfl⟩ := List.mem_map.mp routed
  obtain ⟨arrival, member, rfl⟩ := List.mem_map.mp among
  obtain ⟨other, onPage, -, entry, isEntry⟩ :=
    shown_of_listable shelved listable member wanted
  rw [alone, List.mem_singleton] at onPage
  rw [onPage, content] at isEntry
  cases isEntry

def noLater (first second : ListedEntry) : Prop :=
  first.deadLetteredAt.getD 0 ≤ second.deadLetteredAt.getD 0

instance : DecidableRel noLater :=
  fun _ _ => inferInstanceAs (Decidable (_ ≤ _))

instance : Std.Total noLater := ⟨fun _ _ => Nat.le_total _ _⟩

instance : IsTrans ListedEntry noLater := ⟨fun _ _ _ => Nat.le_trans⟩

/-- Entries of the queue can be compared with each other. -/
theorem agrees_of_entries {jobs : List QueuedJob}
    (entries : ∀ job ∈ jobs, ∃ entry, job.data = .deadLetter entry) :
    Agrees compareDeadLetteredAt noLater (jobs.map listed) := by
  intro first here second there
  obtain ⟨job, member, rfl⟩ := List.mem_map.mp here
  obtain ⟨other, member', rfl⟩ := List.mem_map.mp there
  obtain ⟨entry, content⟩ := entries job member
  obtain ⟨entry', content'⟩ := entries other member'
  refine ⟨compare entry.deadLetteredAt entry'.deadLetteredAt, ?_, ?_⟩
  · simp [compareDeadLetteredAt, listed, content, content']
  · simp [noLater, listed, content, content', Nat.compare_ne_gt]

/-- A page of entries is returned in order. -/
theorem answers_entries
    (shelved : Shelved arrivals (page layout ++ hidden layout))
    (listable : Listable arrivals layout get gatewayId)
    (entries : ∀ job ∈ page layout, ∃ entry, job.data = .deadLetter entry) :
    Answers arrivals engine layout get gatewayId := by
  have sorted : listDlq engine layout =
      .ok (((page layout).map listed).insertionSort noLater) :=
    engine.sorts noLater (agrees_of_entries entries)
  have perm := List.perm_insertionSort noLater ((page layout).map listed)
  have ordered := List.pairwise_insertionSort noLater
    ((page layout).map listed)
  generalize ((page layout).map listed).insertionSort noLater = listing
    at sorted perm ordered
  refine ⟨answer get gatewayId listing, by rw [dlq_eq, sorted]; rfl, ?_⟩
  refine ⟨rfl, ?_, ?_, ?_, ?_⟩
  · have nodup := shelved.nodup
    rw [List.map_append] at nodup
    have named : (page layout).map (fun job => (listed job).paymentId) =
        (page layout).map QueuedJob.id :=
      List.map_congr_left fun job member =>
        shelved.named job (List.mem_append_left _ member)
    have distinct : (listing.map ListedEntry.paymentId).Nodup := by
      refine (perm.map _).nodup_iff.mpr ?_
      rw [List.map_map]
      exact named ▸ nodup.of_append_left
    have whole : ((listing.map (letterOf get)).map
        DeadLetter.paymentId).Nodup := by
      rw [List.map_map]
      exact distinct
    exact whole.sublist (List.filter_sublist.map _)
  · intro id
    rw [mem_answer_ids perm]
    refine and_congr_left fun wanted => ?_
    constructor
    · rintro ⟨job, onPage, rfl⟩
      obtain ⟨entry, content⟩ := entries job onPage
      obtain ⟨arrival, member, rfl, -⟩ :=
        shelved.arrived job (List.mem_append_left _ onPage) entry content
      rw [listed, content]
      exact List.mem_map_of_mem (List.mem_map_of_mem member)
    · intro routed
      obtain ⟨entry, among, rfl⟩ := List.mem_map.mp routed
      obtain ⟨arrival, member, rfl⟩ := List.mem_map.mp among
      obtain ⟨job, onPage, same, -⟩ :=
        shown_of_listable shelved listable member wanted
      refine ⟨job, onPage, ?_⟩
      rw [shelved.named job (List.mem_append_left _ onPage), same]
  · intro letter member
    obtain ⟨job, onPage, rfl, -⟩ := (mem_answer perm).mp member
    obtain ⟨entry, content⟩ := entries job onPage
    obtain ⟨arrival, among, rfl, -⟩ :=
      shelved.arrived job (List.mem_append_left _ onPage) entry content
    refine ⟨rfl, arrival.entry, List.mem_map_of_mem among, ?_⟩
    simp [letterOf, listed, content]
  · refine List.Pairwise.filter _ (List.pairwise_map.mpr ?_)
    refine ordered.imp fun {first second} before earlier isFirst later
      isSecond => ?_
    have isFirst : first.deadLetteredAt = some earlier := isFirst
    have isSecond : second.deadLetteredAt = some later := isSecond
    simpa [noLater, isFirst, isSecond] using before

private theorem answers_of_listable
    (shelved : Shelved arrivals (page layout ++ hidden layout))
    (listable : Listable arrivals layout get gatewayId)
    (engine : Engine Thrown ListedEntry) :
    Answers arrivals engine layout get gatewayId := by
  by_cases entries : ∀ job ∈ page layout, ∃ entry, job.data = .deadLetter entry
  · exact answers_entries shelved listable entries
  · push Not at entries
    obtain ⟨job, onPage, other⟩ := entries
    cases content : job.data with
    | deadLetter entry => exact absurd content (other entry)
    | payment data =>
        obtain ⟨alone, unwanted⟩ := listable.alone job onPage data content
        exact answers_alone shelved listable content alone unwanted

private theorem answers_iff_listable
    (shelved : Shelved arrivals (page layout ++ hidden layout)) :
    (∀ engine, Answers arrivals engine layout get gatewayId) ↔
      Listable arrivals layout get gatewayId :=
  ⟨listable_of_answers shelved, answers_of_listable shelved⟩

end Completeness

/-- In every run: whatever order of comparisons the sort takes, the listing is
complete exactly if it is listable. -/
theorem dlq_complete_iff (config : AppConfig) (world : World)
    (empty : ∀ id, world.queues dlqQueueName id = none)
    (watched : Watched config)
    (reached : Reaches watch (fun _ _ => True) (initially world, []) watched)
    (layout : Layout) (lays : Lays watched.1.world layout)
    (get : PaymentId → Option PaymentRecord) (gatewayId : Option String) :
    (∀ engine, ∃ response, dlq engine layout get gatewayId = .ok response ∧
      Complete (watched.2.map Arrival.entry) get gatewayId response) ↔
      Listable watched.2 layout get gatewayId :=
  answers_iff_listable (lays.shelved (holds_of_reaches empty reached))

/-- When no gateway with jobs has a queue called `dlq`, only the length of the
page counts. -/
theorem dlq_complete_apart (config : AppConfig) (world : World)
    (empty : ∀ id, world.queues dlqQueueName id = none)
    (watched : Watched config)
    (reached : Reaches watch (fun watched label => apart watched label = true)
      (initially world, []) watched)
    (layout : Layout) (lays : Lays watched.1.world layout)
    (get : PaymentId → Option PaymentRecord) (gatewayId : Option String) :
    (∀ engine, Answers watched.2 engine layout get gatewayId) ↔
      ∀ state, ∀ job ∈ (layout state).drop 201,
        ¬ Wanted get gatewayId job.id := by
  have undisplaced := undisplaced_of_apart empty reached
  have shelved := lays.shelved (holds_of_reaches empty reached)
  have entries : ∀ job ∈ page layout ++ hidden layout,
      ∃ entry, job.data = .deadLetter entry := by
    intro job member
    obtain ⟨stored, found, same⟩ :=
      lays.stored job ((page_hidden_perm layout).mem_iff.mp member)
    rw [← same]
    exact undisplaced.only job.id stored found
  have named : ∀ job ∈ page layout ++ hidden layout, ∀ entry,
      job.data = .deadLetter entry → entry.paymentId = job.id := by
    intro job member entry content
    rw [← shelved.named job member, listed, content]
  rw [answers_iff_listable shelved]
  constructor
  · intro listable state job later
    have behind := List.mem_append_right (page layout)
      (mem_hidden.mpr ⟨state, later⟩)
    obtain ⟨entry, content⟩ := entries job behind
    rw [← named job behind entry content]
    exact listable.paged state job later entry content
  · intro short
    refine ⟨?_, ?_, ?_⟩
    · intro state job later entry content
      rw [named job (List.mem_append_right _ (mem_hidden.mpr ⟨state, later⟩))
        entry content]
      exact short state job later
    · exact fun arrival member _ =>
        ⟨arrival, member, rfl, undisplaced.admitted arrival member⟩
    · intro job onPage data content
      obtain ⟨entry, isEntry⟩ := entries job (List.mem_append_left _ onPage)
      rw [content] at isEntry
      cases isEntry

end PaymentQueue.Listing
