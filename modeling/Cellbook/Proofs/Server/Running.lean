import Cellbook.Proofs.Server.Frame

/-!
# Which notebooks are shown as running

The listing of documents shows of each whether the notebook of that name is running.  Documents are
kept under sanitized names and environments under the names that clients send, so the listing looks
an environment up under a name that may not be the one it was made under.

A notebook that a client saves and runs is shown as running just if sanitizing leaves its name as it
is, or the notebook of the sanitized name is running by itself; when the client stops it, that other
notebook runs on (`Service.running_shown`).
-/

namespace Cellbook

variable {α β φ : Type} {f : α → Except φ β}

theorem mapM_of_forall_eq_ok {g : α → β} {items : List α} (h : ∀ a ∈ items, f a = .ok (g a)) :
    items.mapM f = .ok (items.map g) := by
  induction items with
  | nil => rfl
  | cons a items ih =>
      rw [List.mapM_cons, h a List.mem_cons_self,
        ih fun b hb => h b (List.mem_cons_of_mem a hb)]
      rfl

theorem exists_of_mapM_eq_ok {items : List α} {results : List β}
    (h : items.mapM f = .ok results) : ∀ a ∈ items, ∃ b, f a = .ok b := by
  induction items generalizing results with
  | nil => exact fun a ha => absurd ha List.not_mem_nil
  | cons a items ih =>
      rw [List.mapM_cons] at h
      rcases hfirst : f a with fault | b
      · rw [hfirst] at h
        cases h
      · rcases hrest : items.mapM f with fault | rest
        · rw [hfirst, hrest] at h
          cases h
        · intro other hother
          rcases List.mem_cons.mp hother with rfl | hother
          · exact ⟨b, hfirst⟩
          · exact ih hrest other hother

namespace Engine

variable {ε ν σ : Type} (engine : Engine ε ν)

/-- A run makes its notebook run and no other. -/
theorem isRunning_run [Represent ν] (channel : Channel σ) (id : NotebookId) (source : String)
    (state : σ) (name : String) :
    (engine.run channel id source state).1.isRunning name =
      (decide (name = id.name) || engine.isRunning name) := by
  rw [run_eq]
  dsimp only
  rw [isRunning, Registry.contains, find?_setEnvironment, find?_lookUp]
  by_cases h : name = id.name
  · rw [if_pos h, decide_eq_true h]
    rfl
  · rw [if_neg h, decide_eq_false h, Bool.false_or]
    rfl

/-- A stop ends its notebook and no other. -/
theorem isRunning_stop (stopped name : String) :
    (engine.stop stopped).1.isRunning name =
      (decide (name ≠ stopped) && engine.isRunning name) := by
  rw [isRunning, Registry.contains, stop, Registry.find?_remove]
  by_cases h : name = stopped
  · simp [h]
  · rw [if_neg h, decide_eq_true h, Bool.true_and]
    rfl

end Engine

namespace Server

variable {ε ν σ τ : Type}

/-! ## Requests -/

/-- A request to save a document under a name. -/
structure IsSave (request : Http.Request) (name : String) : Prop where
  method : request.method = "POST"
  route : ∃ segment, Route.ofPath? request.path = some (.save segment) ∧
    decodeName? segment = some name

/-- A request to run a cell of a notebook. -/
structure IsRun (request : Http.Request) (name : String) : Prop where
  method : request.method = "POST"
  route : Route.ofPath? request.path = some .runCell
  length_le : request.body.length ≤ bodyLimit
  cell : ∃ cell, RunCellRequest.decode request.body = .ok cell ∧ cell.name = name

/-- A request to stop a notebook. -/
structure IsStop (request : Http.Request) (name : String) : Prop where
  method : request.method = "POST"
  route : Route.ofPath? request.path = some .stop
  length_le : request.body.length ≤ bodyLimit
  body : Json.decode Json.text request.body = .ok name

/-- A request for the listing of documents. -/
structure IsListing (request : Http.Request) : Prop where
  method : request.method = "GET"
  route : Route.ofPath? request.path = some .files

namespace Service

variable [FileStore σ] (service : Service ε ν σ τ)

/-! ## The listing -/

/-- The entries of the documents among listed names, by name. -/
theorem entries_of_list {names : List String} {size : String → Nat}
    (hlist : FileStore.list service.store = .ok names)
    (hsize : ∀ name ∈ names, hasNotebookSuffix name = true →
      FileStore.size service.store name = .ok (size name)) :
    service.entries = .ok (((names.filter hasNotebookSuffix).map fun name =>
      ⟨name, service.engine.isRunning name, size name⟩).mergeSort
        fun a b => !decide (b.name < a.name)) := by
  have hentries : (names.filter hasNotebookSuffix).mapM service.entryOf =
      .ok ((names.filter hasNotebookSuffix).map fun name =>
        ⟨name, service.engine.isRunning name, size name⟩) := by
    refine mapM_of_forall_eq_ok fun name hname => ?_
    obtain ⟨hmem, hsuffix⟩ := List.mem_filter.mp hname
    rw [entryOf, hsize name hmem hsuffix]
  rw [entries, hlist]
  dsimp only
  rw [hentries]
  rfl

/-- The entries are known by the names that are listed and the sizes of their files. -/
theorem entries_eq {names : List String} {size : String → Nat}
    (hlist : FileStore.list service.store = .ok names)
    (hsize : ∀ name ∈ names, hasNotebookSuffix name = true →
      FileStore.size service.store name = .ok (size name)) :
    ∃ entries, service.entries = .ok entries ∧ ∀ entry, entry ∈ entries ↔
      ∃ name ∈ names, hasNotebookSuffix name = true ∧
        entry = ⟨name, service.engine.isRunning name, size name⟩ := by
  refine ⟨_, service.entries_of_list hlist hsize, fun entry => ?_⟩
  rw [List.mem_mergeSort, List.mem_map]
  constructor
  · rintro ⟨name, hname, rfl⟩
    obtain ⟨hmem, hsuffix⟩ := List.mem_filter.mp hname
    exact ⟨name, hmem, hsuffix, rfl⟩
  · rintro ⟨name, hmem, hsuffix, rfl⟩
    exact ⟨name, List.mem_filter.mpr ⟨hmem, hsuffix⟩, rfl⟩

/-- Where there are entries, all names are listed with the sizes of their files. -/
theorem of_entries {entries : List FileEntry} (h : service.entries = .ok entries) :
    ∃ names, FileStore.list service.store = .ok names ∧
      ∀ name ∈ names, hasNotebookSuffix name = true →
        ∃ size, FileStore.size service.store name = .ok size := by
  rw [Service.entries] at h
  rcases hlist : FileStore.list service.store with fault | names
  · rw [hlist] at h
    cases h
  · rw [hlist] at h
    dsimp only at h
    rcases hmap : (names.filter hasNotebookSuffix).mapM service.entryOf with fault | found
    · rw [hmap] at h
      cases h
    · refine ⟨names, rfl, fun name hname hsuffix => ?_⟩
      obtain ⟨entry, hentry⟩ :=
        exists_of_mapM_eq_ok hmap name (List.mem_filter.mpr ⟨hname, hsuffix⟩)
      rw [entryOf] at hentry
      rcases hsize : FileStore.size service.store name with fault | size
      · rw [hsize] at hentry
        cases hentry
      · exact ⟨size, rfl⟩

/-! ## What requests do -/

/-- A save that succeeds has written the document. -/
theorem save_of_status {raw : String} {hasLength : Bool} {body : Bytes}
    (h : (service.save raw hasLength body).2.response.status = 200) :
    hasNotebookSuffix raw = true ∧ ∃ store,
      FileStore.write service.store (sanitize raw) body = (store, .ok ()) ∧
        (service.save raw hasLength body).1 = { service with store := store } := by
  rw [save] at h ⊢
  dsimp only at h ⊢
  rcases hid : NotebookId.ofName? (sanitize raw) with _ | id
  · rw [hid] at h
    exact absurd h (ServerFault.status_response_ne (.core (.invalidName (sanitize raw))))
  · have hname := NotebookId.name_of_ofName? hid
    have hsuffix : hasNotebookSuffix raw = true := by
      rw [← hasNotebookSuffix_sanitize, ← hname]
      exact id.hasSuffix
    rw [hid] at h
    cases hasLength with
    | false => exact absurd h (ServerFault.status_response_ne .missingContentLength)
    | true =>
        rcases hwrite : FileStore.write service.store id.name body with ⟨store, fault | ⟨⟩⟩
        · have hfault : (Handled.response (.error (.ofIo id.name fault))).status = 200 := by
            simpa [hwrite] using h
          exact absurd hfault (ServerFault.status_response_ne _)
        · exact ⟨hsuffix, store, hname ▸ hwrite, by simp [hwrite]⟩

variable [Represent ν] [FileStore τ] {request : Http.Request} {name : String}

theorem handle_save (h : IsSave request name) (hstatus : (service.handle request).2.status = 200) :
    hasNotebookSuffix name = true ∧ ∃ store,
      FileStore.write service.store (sanitize name) request.body = (store, .ok ()) ∧
        (service.handle request).1 = { service with store := store } := by
  obtain ⟨hmethod, segment, hroute, hname⟩ := h
  have hmethods : request.method ∈ (Route.save segment).methods := List.mem_singleton.mpr hmethod
  rw [service.fst_handle_of_route hroute hmethods]
  rw [service.status_handle_of_route hroute hmethods] at hstatus
  rw [handleRoute, hname] at hstatus ⊢
  dsimp only at hstatus ⊢
  by_cases hlength : request.body.length ≤ bodyLimit
  · rw [withBody_of_le hlength] at hstatus ⊢
    dsimp only at hstatus ⊢
    exact service.save_of_status hstatus
  · have hlarge : bodyTooLarge.status ≠ 200 := by decide
    rw [withBody, if_pos (Nat.lt_of_not_le hlength)] at hstatus
    exact absurd hstatus hlarge

/-- A cell that is run makes its notebook run and changes no document. -/
theorem handle_run (h : IsRun request name) (hsuffix : hasNotebookSuffix name = true) :
    ∃ engine : Engine ε ν, (service.handle request).1 = { service with engine := engine } ∧
      ∀ other, engine.isRunning other = (decide (other = name) || service.engine.isRunning other) := by
  obtain ⟨hmethod, hroute, hlength, cell, hcell, rfl⟩ := h
  have hid := NotebookId.ofName?_eq_some hsuffix
  have hmethods : request.method ∈ Route.runCell.methods := List.mem_singleton.mpr hmethod
  refine ⟨(runIntoQueue service.engine ⟨cell.name, hsuffix⟩ cell.text).1, ?_, fun other => ?_⟩
  · rw [service.fst_handle_of_route hroute hmethods, handleRoute, withBody_of_le hlength]
    dsimp only
    rw [runCell, hcell]
    dsimp only
    rw [hid]
  · rw [engine_runIntoQueue, Engine.isRunning_run]

/-- A stop ends the notebook and changes no document. -/
theorem handle_stop (h : IsStop request name) (hsuffix : hasNotebookSuffix name = true) :
    (service.handle request).1 = { service with engine := (service.engine.stop name).1 } := by
  obtain ⟨hmethod, hroute, hlength, hbody⟩ := h
  have hid := NotebookId.ofName?_eq_some hsuffix
  have hmethods : request.method ∈ Route.stop.methods := List.mem_singleton.mpr hmethod
  rw [service.fst_handle_of_route hroute hmethods, handleRoute, withBody_of_le hlength]
  dsimp only
  rw [stop, notebookName, hbody]
  dsimp only
  rw [hid]

/-- The answer to a request for the listing. -/
def listed (entries : List FileEntry) : Response :=
  let octets := Text.encode (Json.writeList (entries.map FileEntry.toJson))
  ⟨200, [("content-type", jsonType), ("content-length", toString octets.length)] ++ sharingHeaders,
    .whole octets⟩

theorem handle_listing (h : IsListing request) {entries : List FileEntry}
    (hentries : service.entries = .ok entries) :
    service.handle request = (service, listed entries) := by
  obtain ⟨hmethod, hroute⟩ := h
  have hmethods : request.method ∈ Route.files.methods := by
    rw [hmethod]
    exact List.mem_cons_self
  have hhead : request.method ≠ "HEAD" := by
    rw [hmethod]
    decide
  have hfiles : service.listFiles =
      .ok (.ofContent jsonType (Text.encode (Json.writeList (entries.map FileEntry.toJson)))) := by
    rw [listFiles, hentries]
    rfl
  rw [handle, if_neg (Route.ne_options hmethods), service.dispatch_of_route hroute hmethods,
    handleRoute, hfiles]
  dsimp only
  rw [if_neg hhead]
  rfl

/-- A request for the listing is answered with entries of which this is one, and the only one of
its name. -/
def Shows (request : Http.Request) (shown : FileEntry) : Prop :=
  ∃ entries : List FileEntry, (service.handle request).2.status = 200 ∧
    (service.handle request).2.body =
      .whole (Text.encode (Json.writeList (entries.map FileEntry.toJson))) ∧
    shown ∈ entries ∧ ∀ entry ∈ entries, entry.name = shown.name → entry = shown

theorem shows_of_list (h : IsListing request) {names : List String} {size : String → Nat}
    (hlist : FileStore.list service.store = .ok names)
    (hsize : ∀ name ∈ names, hasNotebookSuffix name = true →
      FileStore.size service.store name = .ok (size name))
    (hname : name ∈ names) (hsuffix : hasNotebookSuffix name = true) :
    service.Shows request ⟨name, service.engine.isRunning name, size name⟩ := by
  obtain ⟨entries, hentries, hmem⟩ := service.entries_eq hlist hsize
  have hanswer : service.handle request = (service, listed entries) :=
    service.handle_listing h hentries
  refine ⟨entries, ?_, ?_, (hmem _).mpr ⟨name, hname, hsuffix, rfl⟩, fun entry hentry heq => ?_⟩
  · rw [hanswer]
    rfl
  · rw [hanswer]
    rfl
  · obtain ⟨other, -, -, rfl⟩ := (hmem entry).mp hentry
    cases heq
    rfl

variable [LawfulStore σ]

/-- A document that was written is shown, whatever the engine. -/
theorem shows_of_stored {files : Http.Request} (h : IsListing files)
    {entries : List FileEntry} (hentries : service.entries = .ok entries) {key : String}
    {content : Bytes} {store : σ}
    (hwrite : FileStore.write service.store key content = (store, .ok ()))
    (hsuffix : hasNotebookSuffix key = true) (engine : Engine ε ν) :
    ({ service with engine := engine, store := store } : Service ε ν σ τ).Shows files
      ⟨key, engine.isRunning key, content.length⟩ := by
  obtain ⟨names, hnames, hsizes⟩ := service.of_entries hentries
  have hstored : Stored service.store key content store := by
    have hwritten := LawfulStore.stored (congrArg Prod.snd hwrite)
    rwa [hwrite] at hwritten
  have hview : ∀ other ≠ key, FileStore.view store other = FileStore.view service.store other := by
    intro other hne
    have hkept := LawfulStore.view_write service.store hne content
    rwa [hwrite] at hkept
  obtain ⟨names', hnames', hmem⟩ := hstored.list hnames
  -- Of each document that is listed, the size is that before or that of what was written.
  have hsize : ∀ name ∈ names', hasNotebookSuffix name = true →
      FileStore.size store name = .ok ((FileStore.size store name).toOption.getD 0) := by
    intro name hname hsuffix
    rcases (hmem name).mp hname with rfl | hbefore
    · rw [hstored.size]
      rfl
    · by_cases hne : name = key
      · rw [hne, hstored.size]
        rfl
      · obtain ⟨size, hsize⟩ := hsizes name hbefore hsuffix
        have hsame : FileStore.size store name = FileStore.size service.store name :=
          congrArg FileView.size (hview name hne)
        rw [hsame, hsize]
        rfl
  have hshows := ({ service with engine := engine, store := store } : Service ε ν σ τ).shows_of_list
    h hnames' hsize ((hmem key).mpr (.inl rfl)) hsuffix
  rw [hstored.size] at hshows
  exact hshows

/-- What the listing shows of a notebook that was saved and run under a name, and then of one that
was stopped: with a name that sanitizing changes, it is whether the notebook of the sanitized name is
running. -/
theorem running_shown {save run stop files : Http.Request} (hsave : IsSave save name)
    (hrun : IsRun run name) (hstop : IsStop stop name) (hfiles : IsListing files)
    (hentries : ∃ entries, service.entries = .ok entries)
    (haccepted : (service.handle save).2.status = 200) :
    let saved := (service.handle save).1
    let ran := (saved.handle run).1
    let stopped := (ran.handle stop).1
    let other := service.engine.isRunning (sanitize name)
    ran.Shows files
        ⟨sanitize name, decide (sanitize name = name) || other, save.body.length⟩ ∧
      stopped.Shows files
        ⟨sanitize name, decide (sanitize name ≠ name) && other, save.body.length⟩ := by
  intro saved ran stopped other
  obtain ⟨entries, hentries⟩ := hentries
  obtain ⟨hsuffix, store, hwrite, (hsaved : saved = { service with store := store })⟩ :=
    service.handle_save hsave haccepted
  obtain ⟨engine, (hran : ran = { saved with engine := engine }), hrunning⟩ :=
    saved.handle_run hrun hsuffix
  have hstopped : stopped = _ := ran.handle_stop hstop hsuffix
  have hsanitized : hasNotebookSuffix (sanitize name) = true :=
    (hasNotebookSuffix_sanitize name).trans hsuffix
  have hshown := service.shows_of_stored hfiles hentries hwrite hsanitized
  have hbefore : saved.engine = service.engine := by rw [hsaved]
  rw [hsaved] at hran
  constructor
  · have hshow := hshown engine
    rw [hrunning, hbefore] at hshow
    rw [hran]
    exact hshow
  · have hshow := hshown (engine.stop name).1
    have hflag : (engine.stop name).1.isRunning (sanitize name) =
        (decide (sanitize name ≠ name) && other) := by
      rw [Engine.isRunning_stop, hrunning, hbefore]
      by_cases h : sanitize name = name
      · simp [h]
      · simp [h, other]
    rw [hflag] at hshow
    rw [hstopped, hran]
    exact hshow

/-- A notebook whose name has a plus is not shown as running after it was run. -/
theorem running_shown_plus :
    let service : Service Nat String MemoryStore MemoryStore :=
      ⟨.new Evaluator.echo, .empty, .empty⟩
    let save : Http.Request :=
      ⟨"POST", Text.encode "/_save/a+b.unb", [("content-length", Text.encode "2")],
        Text.encode "\x7b\x7d"⟩
    let run : Http.Request :=
      ⟨"POST", Text.encode "/run_cell", [],
        Text.encode "\x7b\"fn\":\"a+b.unb\",\"source\":[\"1\"]\x7d"⟩
    let files : Http.Request := ⟨"GET", Text.encode "/_files", [], []⟩
    (service.handle save).2.status = 200 ∧
      ((service.handle save).1.handle run).1.Shows files ⟨"a b.unb", false, 2⟩ := by
  intro service save run files
  have hsave : IsSave save "a+b.unb" := ⟨rfl, Text.encode "a+b.unb", by rfl, by decide +kernel⟩
  have hcell : RunCellRequest.decode run.body = .ok ⟨"a+b.unb", ["1"]⟩ := by decide +kernel
  have hrun : IsRun run "a+b.unb" := ⟨rfl, by decide, by decide, _, hcell, rfl⟩
  let stop : Http.Request := ⟨"POST", Text.encode "/_stop", [], Text.encode "\"a+b.unb\""⟩
  have hstop : IsStop stop "a+b.unb" := ⟨rfl, by decide, by decide, by decide +kernel⟩
  have hstatus : (service.handle save).2.status = 200 := by decide +kernel
  have hfiles : IsListing files := ⟨rfl, by decide⟩
  have hentries : service.entries = .ok [] := by decide +kernel
  have hkey : sanitize "a+b.unb" = "a b.unb" := by decide
  have hflag : (decide ("a b.unb" = "a+b.unb") || service.engine.isRunning "a b.unb") = false := by
    decide
  have hsize : save.body.length = 2 := by decide
  have hshown := (service.running_shown hsave hrun hstop hfiles ⟨[], hentries⟩ hstatus).1
  rw [hkey, hflag, hsize] at hshown
  exact ⟨hstatus, hshown⟩

/-- The listing after a notebook whose name has a plus was saved and run. -/
theorem listing_of_plus :
    let service : Service Nat String MemoryStore MemoryStore :=
      ⟨.new Evaluator.echo, .empty, .empty⟩
    let saved := (service.handle
      ⟨"POST", Text.encode "/_save/a+b.unb", [("content-length", Text.encode "2")],
        Text.encode "\x7b\x7d"⟩).1
    let ran := (saved.handle ⟨"POST", Text.encode "/run_cell", [],
      Text.encode "\x7b\"fn\":\"a+b.unb\",\"source\":[\"1\"]\x7d"⟩).1
    ran.engine.isRunning "a+b.unb" = true ∧
      (ran.handle ⟨"GET", Text.encode "/_files", [], []⟩).2.body =
        .whole (Text.encode
          "[\x7b\"fn\":\"a b.unb\",\"running\":false,\"size\":2\x7d]") := by
  decide +kernel

end Service

end Server

end Cellbook
