import Cellbook.Proofs.Server.Documents
import Cellbook.Proofs.Server.Running
import Mathlib.Data.String.Basic
import Mathlib.Logic.Relation

/-!
# Listings among changes

A listing asks the store for the names of its files, and then of each document for its size, and the
engine for whether it is running.  It is not the only one that uses them: between any two of its
questions other requests may save and delete documents, and run and stop notebooks
(`Listing.During`).

So the size and the flag of an entry need not be of one moment: what a listing shows are the sizes
that documents had while it lasted, and whether they were running then or later (`Listing.TrueOf`).
No document is left out that was there all the time.  But a document that is deleted before its size
was asked for is a missing file to the listing, which is then answered as if there were no listing
at all (`Listing.answered_during`).
-/

namespace Cellbook

namespace Server

variable {ε ν σ τ : Type}

/-! ## Steps -/

/-- How far a listing has come. -/
inductive Listing where
  | waiting
  /-- The entries so far, and the documents whose sizes are still to be asked for. -/
  | asking (found : List FileEntry) (names : List String)
  /-- Likewise; of the document whose size was asked for last it is not known if it is running. -/
  | sized (found : List FileEntry) (name : String) (size : Nat) (names : List String)
  | answered (entries : Except ServerFault (List FileEntry))

namespace Listing

/-- Entries in the order in which they are shown. -/
def byName (entries : List FileEntry) : List FileEntry :=
  entries.mergeSort fun a b => !decide (b.name < a.name)

variable [FileStore σ] (service : Service ε ν σ τ)

/-- The next step of a listing: a question to the store or to the engine, or the answer. -/
def next? : Listing → Option Listing
  | waiting =>
    match FileStore.list service.store with
    | .error fault => some (answered (.error (.ofIo "" fault)))
    | .ok names => some (asking [] (names.filter hasNotebookSuffix))
  | asking found [] => some (answered (.ok (byName found)))
  | asking found (name :: names) =>
    match FileStore.size service.store name with
    | .error fault => some (answered (.error (.ofIo name fault)))
    | .ok size => some (sized found name size names)
  | sized found name size names =>
    some (asking (found ++ [⟨name, service.engine.isRunning name, size⟩]) names)
  | answered _ => none

/-- What a listing comes to if nothing changes any more. -/
def outcome : Listing → Except ServerFault (List FileEntry)
  | waiting => service.entries
  | asking found names => (names.mapM service.entryOf).map fun entries => byName (found ++ entries)
  | sized found name size names =>
    (names.mapM service.entryOf).map fun entries =>
      byName (found ++ ⟨name, service.engine.isRunning name, size⟩ :: entries)
  | answered entries => entries

/-- Steps of a listing while nothing changes. -/
def Leads : Listing → Listing → Prop :=
  Relation.ReflTransGen fun listing next => listing.next? service = some next

variable {service}

/-- A step comes to what the listing would have come to. -/
theorem outcome_next {listing next : Listing} (h : listing.next? service = some next) :
    next.outcome service = listing.outcome service := by
  cases listing with
  | waiting =>
      cases hlist : FileStore.list service.store with
      | error fault =>
          obtain rfl : answered (.error (.ofIo "" fault)) = next := by simpa [next?, hlist] using h
          simp [outcome, Service.entries, hlist]
      | ok names =>
          obtain rfl : asking [] (names.filter hasNotebookSuffix) = next := by
            simpa [next?, hlist] using h
          rw [outcome, outcome, Service.entries, hlist]
          rfl
  | asking found names =>
      cases names with
      | nil =>
          obtain rfl := Option.some.inj h
          simp [outcome, pure, Except.pure, Except.map]
      | cons name names =>
          rw [next?] at h
          rw [outcome, List.mapM_cons, Service.entryOf]
          cases hsize : FileStore.size service.store name with
          | error fault =>
              rw [hsize] at h
              obtain rfl := Option.some.inj h
              rfl
          | ok size =>
              rw [hsize] at h
              obtain rfl := Option.some.inj h
              rw [outcome]
              cases names.mapM service.entryOf <;> rfl
  | sized found name size names =>
      obtain rfl := Option.some.inj h
      simp [outcome]
  | answered entries => cases h

/-- If a step leads to what it comes to, so does the listing. -/
theorem Leads.of_next {listing next : Listing} (hstep : listing.next? service = some next)
    (h : next.Leads service (answered (next.outcome service))) :
    listing.Leads service (answered (listing.outcome service)) := by
  rw [outcome_next hstep] at h
  exact .head hstep h

theorem leads_asking (found : List FileEntry) (names : List String) :
    (asking found names).Leads service (answered ((asking found names).outcome service)) := by
  induction names generalizing found with
  | nil => exact .of_next rfl .refl
  | cons name names ih =>
      cases hsize : FileStore.size service.store name with
      | error fault =>
          have hstep : (asking found (name :: names)).next? service =
              some (answered (.error (.ofIo name fault))) := by
            rw [next?, hsize]
          exact .of_next hstep .refl
      | ok size => exact .of_next (by rw [next?, hsize]) (.of_next rfl (ih _))

variable (service) in
/-- A listing that is left alone is answered; one that is left alone from the start is the listing
of the server. -/
theorem leads_answered (listing : Listing) :
    listing.Leads service (answered (listing.outcome service)) := by
  cases listing with
  | waiting =>
      cases hlist : FileStore.list service.store with
      | error fault =>
          have hstep : waiting.next? service = some (answered (.error (.ofIo "" fault))) := by
            rw [next?, hlist]
          exact .of_next hstep .refl
      | ok names => exact .of_next (by rw [next?, hlist]) (leads_asking _ _)
  | asking found names => exact leads_asking found names
  | sized found name size names => exact .of_next rfl (leads_asking _ _)
  | answered entries => exact .refl

end Listing

/-! ## What is known of a listing -/

namespace Listing

/-- The documents of a service. -/
def documents (service : Service ε ν MemoryStore τ) : List String :=
  service.store.names.filter hasNotebookSuffix

/-- Whether a service has a document of a size. -/
def HasSize (service : Service ε ν MemoryStore τ) (name : String) (size : Nat) : Prop :=
  ∃ content, service.store.get? name = some content ∧ size = content.length

/-- Whether an entry is true of several moments, latest first: its size of one of them, and its flag
of that one or a later one. -/
def TrueOf (moments : List (Service ε ν MemoryStore τ)) (entry : FileEntry) : Prop :=
  ∃ later moment earlier, moments = later ++ moment :: earlier ∧
    HasSize moment entry.name entry.size ∧
    ∃ asked ∈ later ++ [moment], entry.running = asked.engine.isRunning entry.name

/-- What is known of a listing by the service as it is now and as it was before. -/
def Sound (service : Service ε ν MemoryStore τ) (past : List (Service ε ν MemoryStore τ)) :
    Listing → Prop
  | waiting => True
  | asking found names =>
    (∀ entry ∈ found, TrueOf (service :: past) entry) ∧
      ∃ listed ∈ service :: past, found.map FileEntry.name ++ names = documents listed
  | sized found name size names =>
    (∀ entry ∈ found, TrueOf (service :: past) entry) ∧
      (∃ moment ∈ service :: past, HasSize moment name size) ∧
      ∃ listed ∈ service :: past, found.map FileEntry.name ++ name :: names = documents listed
  | answered (.ok entries) =>
    ∃ found, entries = byName found ∧ (∀ entry ∈ found, TrueOf (service :: past) entry) ∧
      ∃ listed ∈ service :: past, found.map FileEntry.name = documents listed
  | answered (.error fault) =>
    ∃ name, fault = .notFound name ∧ service.store.get? name = none ∧
      ∃ earlier ∈ past, (earlier.store.get? name).isSome = true

theorem TrueOf.cons {moments : List (Service ε ν MemoryStore τ)} {entry : FileEntry}
    (h : TrueOf moments entry) (next : Service ε ν MemoryStore τ) :
    TrueOf (next :: moments) entry := by
  obtain ⟨later, moment, earlier, rfl, hsize, asked, hasked, hrunning⟩ := h
  exact ⟨next :: later, moment, earlier, rfl, hsize, asked, List.mem_cons_of_mem _ hasked, hrunning⟩

/-- A document that had its size at some moment is shown with the flag that it has now. -/
theorem HasSize.trueOf {service : Service ε ν MemoryStore τ}
    {past : List (Service ε ν MemoryStore τ)} {name : String} {size : Nat}
    (h : ∃ moment ∈ service :: past, HasSize moment name size) :
    TrueOf (service :: past) ⟨name, service.engine.isRunning name, size⟩ := by
  obtain ⟨moment, hmem, hsize⟩ := h
  obtain ⟨later, earlier, hmoments⟩ := List.append_of_mem hmem
  refine ⟨later, moment, earlier, hmoments, hsize, service, ?_, rfl⟩
  cases later with
  | nil => exact List.mem_singleton.mpr (List.cons.inj hmoments).1
  | cons latest later => exact List.mem_cons.mpr (.inl (List.cons.inj hmoments).1)

/-- A document has a size while it is there, and is a missing file when it is not. -/
theorem size_cases (service : Service ε ν MemoryStore τ) (name : String) :
    (∃ size, HasSize service name size ∧ FileStore.size service.store name = .ok size) ∨
      service.store.get? name = none ∧
        FileStore.size service.store name = .error (MemoryStore.missing name) := by
  cases hget : service.store.get? name with
  | some content =>
      refine .inl ⟨content.length, ⟨content, hget, rfl⟩, ?_⟩
      simp [FileStore.size, MemoryStore.found, hget]
  | none => exact .inr ⟨rfl, by simp [FileStore.size, MemoryStore.found, hget]⟩

/-- A step of the listing keeps what is known of it. -/
theorem Sound.next {service : Service ε ν MemoryStore τ} {past : List (Service ε ν MemoryStore τ)}
    {listing next : Listing} (h : Sound service past listing)
    (hstep : listing.next? service = some next) : Sound service past next := by
  cases listing with
  | waiting =>
      obtain rfl : asking [] (documents service) = next := Option.some.inj hstep
      exact ⟨nofun, service, List.mem_cons_self, rfl⟩
  | asking found names =>
      obtain ⟨hfound, listed, hlisted, hnames⟩ := h
      cases names with
      | nil =>
          obtain rfl : answered (.ok (byName found)) = next := Option.some.inj hstep
          rw [List.append_nil] at hnames
          exact ⟨found, rfl, hfound, listed, hlisted, hnames⟩
      | cons name names =>
          rcases size_cases service name with ⟨size, hsize, hanswer⟩ | ⟨hget, hanswer⟩
          · rw [next?, hanswer] at hstep
            obtain rfl := Option.some.inj hstep
            exact ⟨hfound, ⟨service, List.mem_cons_self, hsize⟩, listed, hlisted, hnames⟩
          · rw [next?, hanswer] at hstep
            obtain rfl := Option.some.inj hstep
            have hthen : (listed.store.get? name).isSome = true := by
              have hmem : name ∈ documents listed := by
                rw [← hnames]
                exact List.mem_append_right _ List.mem_cons_self
              exact (listed.store.isSome_get?_iff name).mpr (List.mem_filter.mp hmem).1
            refine ⟨name, rfl, hget, listed, ?_, hthen⟩
            rcases List.mem_cons.mp hlisted with rfl | hpast
            · rw [hget] at hthen
              cases hthen
            · exact hpast
  | sized found name size names =>
      obtain ⟨hfound, hsize, listed, hlisted, hnames⟩ := h
      obtain rfl := Option.some.inj hstep
      refine ⟨fun entry hmem => ?_, listed, hlisted, ?_⟩
      · rcases List.mem_append.mp hmem with hmem | hmem
        · exact hfound entry hmem
        · rw [List.mem_singleton.mp hmem]
          exact HasSize.trueOf hsize
      · rw [← hnames, List.map_append, List.append_assoc]
        rfl
  | answered entries => cases hstep

/-- Another request keeps what is known of a listing that goes on. -/
theorem Sound.request {service next : Service ε ν MemoryStore τ}
    {past : List (Service ε ν MemoryStore τ)} {listing : Listing} (h : Sound service past listing)
    (hopen : ∀ entries, listing ≠ answered entries) : Sound next (service :: past) listing := by
  cases listing with
  | waiting => trivial
  | asking found names =>
      obtain ⟨hfound, listed, hlisted, hnames⟩ := h
      exact ⟨fun entry hmem => (hfound entry hmem).cons next, listed,
        List.mem_cons_of_mem _ hlisted, hnames⟩
  | sized found name size names =>
      obtain ⟨hfound, ⟨moment, hmoment, hsize⟩, listed, hlisted, hnames⟩ := h
      exact ⟨fun entry hmem => (hfound entry hmem).cons next,
        ⟨moment, List.mem_cons_of_mem _ hmoment, hsize⟩, listed, List.mem_cons_of_mem _ hlisted,
        hnames⟩
  | answered entries => exact absurd rfl (hopen entries)

/-! ## What is shown -/

variable {service : Service ε ν MemoryStore τ} {past : List (Service ε ν MemoryStore τ)}

/-- Entries are shown by ascending names. -/
theorem pairwise_byName {entries : List FileEntry} (h : (entries.map FileEntry.name).Nodup) :
    (byName entries).Pairwise fun a b => a.name < b.name := by
  have hsorted : (byName entries).Pairwise fun a b => (!decide (b.name < a.name)) = true := by
    refine List.pairwise_mergeSort ?_ ?_ entries
    · intro a b c hab hbc
      simp only [Bool.not_eq_true', decide_eq_false_iff_not, not_lt] at hab hbc ⊢
      exact hab.trans hbc
    · intro a b
      simp only [Bool.or_eq_true, Bool.not_eq_true', decide_eq_false_iff_not, not_lt]
      exact le_total a.name b.name
  have hdistinct : (byName entries).Pairwise fun a b => a.name ≠ b.name := by
    have hnodup : ((byName entries).map FileEntry.name).Nodup :=
      ((List.mergeSort_perm entries _).map FileEntry.name).nodup_iff.mpr h
    exact List.pairwise_map.mp hnodup
  refine (hsorted.and hdistinct).imp fun hab => ?_
  simp only [Bool.not_eq_true', decide_eq_false_iff_not, not_lt] at hab
  exact lt_of_le_of_ne hab.1 hab.2

/-- What is sent for a listing. -/
def respond (entries : Except ServerFault (List FileEntry)) : Handled :=
  entries.map fun entries =>
    .ofContent jsonType (Text.encode (Json.writeList (entries.map FileEntry.toJson)))

/-- A listing that is left alone from the start sends what the server does. -/
theorem respond_outcome (service : Service ε ν MemoryStore τ) :
    respond (waiting.outcome service) = service.listFiles := rfl

/-- Whether entries are a listing of the documents of several moments. -/
structure Lists (moments : List (Service ε ν MemoryStore τ)) (entries : List FileEntry) : Prop where
  ascending : entries.Pairwise fun a b => a.name < b.name
  /-- A document that is shown was there with its size at one of the moments, and is flagged as it
  was at that moment or a later one. -/
  existed : ∀ entry ∈ entries, TrueOf moments entry
  /-- A document that was there all the time is shown. -/
  complete : ∀ name, hasNotebookSuffix name = true →
    (∀ moment ∈ moments, (moment.store.get? name).isSome = true) →
      ∃ entry ∈ entries, entry.name = name

theorem Sound.lists {entries : List FileEntry} (h : Sound service past (answered (.ok entries))) :
    Lists (service :: past) entries := by
  obtain ⟨found, rfl, hfound, listed, hlisted, hdocuments⟩ := h
  constructor
  · refine pairwise_byName ?_
    rw [hdocuments]
    exact listed.store.nodup.filter _
  · intro entry hentry
    exact hfound entry (List.mem_mergeSort.mp hentry)
  · intro name hsuffix hthere
    have hmem : name ∈ found.map FileEntry.name := by
      rw [hdocuments]
      refine List.mem_filter.mpr ⟨?_, hsuffix⟩
      exact (listed.store.isSome_get?_iff name).mp (hthere listed hlisted)
    obtain ⟨entry, hentry, rfl⟩ := List.mem_map.mp hmem
    exact ⟨entry, List.mem_mergeSort.mpr hentry, rfl⟩

/-! ## Requests in between -/

variable {start : Service ε ν MemoryStore τ} {listing : Listing} [Represent ν] [FileStore τ]

/-- How far a listing may have come that was asked of the service `start`: the service as it is now,
as it was before each of the requests in between, latest first, and the listing. -/
inductive During (start : Service ε ν MemoryStore τ) :
    Service ε ν MemoryStore τ → List (Service ε ν MemoryStore τ) → Listing → Prop
  | start : During start start [] waiting
  | /-- Another request is answered while the listing goes on. -/
    request {service : Service ε ν MemoryStore τ} {past : List (Service ε ν MemoryStore τ)}
      {listing : Listing} (h : During start service past listing)
      (hopen : ∀ entries, listing ≠ answered entries) (request : Http.Request) :
      During start (service.handle request).1 (service :: past) listing
  | /-- The listing takes a step. -/
    step {service : Service ε ν MemoryStore τ} {past : List (Service ε ν MemoryStore τ)}
      {listing next : Listing} (h : During start service past listing)
      (hstep : listing.next? service = some next) : During start service past next

theorem During.sound (h : During start service past listing) : Sound service past listing := by
  induction h with
  | start => trivial
  | request _ hopen _ ih => exact ih.request hopen
  | step _ hstep ih => exact ih.next hstep

/-- A listing is always answered, whatever is asked in between.  The answer lists the documents,
unless one that was there is gone by then: then it may be that the listing is not found. -/
theorem answered_during (h : During start service past listing) :
    listing.Leads service (answered (listing.outcome service)) ∧
      ∀ answer, listing = answered answer →
        (∃ entries, answer = .ok entries ∧ (respond answer).response.status = 200 ∧
          Lists (service :: past) entries) ∨
        ∃ name, answer = .error (.notFound name) ∧ (respond answer).response.status = 404 ∧
          service.store.get? name = none ∧
            ∃ earlier ∈ past, (earlier.store.get? name).isSome = true := by
  refine ⟨leads_answered service listing, ?_⟩
  rintro answer rfl
  have hsound := h.sound
  rcases answer with fault | entries
  · obtain ⟨name, rfl, hget, hearlier⟩ := hsound
    exact .inr ⟨name, rfl, rfl, hget, hearlier⟩
  · exact .inl ⟨entries, rfl, rfl, hsound.lists⟩

/-- Another document is saved while a listing goes on, which shows the one that was there. -/
theorem answered_during_save :
    let service : Service Nat String MemoryStore MemoryStore :=
      ⟨.new Evaluator.echo, ⟨[("a.unb", [49])], by decide⟩, .empty⟩
    let save : Http.Request := ⟨"POST", Text.encode "/_save/b.unb",
      [("content-length", Text.encode "2")], Text.encode "\x7b\x7d"⟩
    let saved := (service.handle save).1
    saved.store.names = ["a.unb", "b.unb"] ∧
      During service saved [service] (answered (.ok [⟨"a.unb", false, 1⟩])) ∧
        Lists [saved, service] [⟨"a.unb", false, 1⟩] := by
  intro service save saved
  have hsaved : saved.store.names = ["a.unb", "b.unb"] := by decide +kernel
  have hrunning : saved.engine.isRunning "a.unb" = false := by decide +kernel
  have hduring : During service saved [service] (answered (.ok [⟨"a.unb", false, 1⟩])) := by
    have hasked : During service service [] (asking [] ["a.unb"]) := .step .start rfl
    have hsized : During service service [] (sized [] "a.unb" 1 []) := .step hasked rfl
    have hthen : During service saved [service] (sized [] "a.unb" 1 []) :=
      .request hsized nofun save
    have hfound : During service saved [service] (asking [⟨"a.unb", false, 1⟩] []) := by
      refine .step hthen ?_
      rw [next?, hrunning]
      rfl
    refine .step hfound ?_
    rw [next?, byName, List.mergeSort_singleton]
  refine ⟨hsaved, hduring, ?_⟩
  rcases (answered_during hduring).2 _ rfl with ⟨entries, heq, -, hlists⟩ | ⟨name, heq, -⟩
  · cases heq
    exact hlists
  · cases heq

/-- The only document is deleted while a listing goes on, which is then not found. -/
theorem not_found_during_delete :
    let service : Service Nat String MemoryStore MemoryStore :=
      ⟨.new Evaluator.echo, ⟨[("a.unb", [49])], by decide⟩, .empty⟩
    let delete : Http.Request := ⟨"POST", Text.encode "/_delete", [], Text.encode "\"a.unb\""⟩
    let deleted := (service.handle delete).1
    (service.handle delete).2.status = 200 ∧
      During service deleted [service] (answered (.error (.notFound "a.unb"))) ∧
        (respond (.error (.notFound "a.unb"))).response.status = 404 := by
  intro service delete deleted
  have hstatus : (service.handle delete).2.status = 200 := by decide +kernel
  have hsize : FileStore.size deleted.store "a.unb" = .error (MemoryStore.missing "a.unb") := by
    decide +kernel
  refine ⟨hstatus, ?_, rfl⟩
  have hasked : During service service [] (asking [] ["a.unb"]) := .step .start rfl
  have hthen : During service deleted [service] (asking [] ["a.unb"]) :=
    .request hasked nofun delete
  refine .step hthen ?_
  rw [next?, hsize]
  rfl

end Listing

end Server

end Cellbook
