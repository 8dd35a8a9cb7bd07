import FieldTemplates.Command.Run
import FieldTemplates.Proofs.Command.Screen
import FieldTemplates.Proofs.Library.Load

namespace FieldTemplates.Command

variable {w : World} {o : Origin}

-- What is shown in front stays in front.
theorem settle_append {s : Screen} {before : List Event}
    (h : ∀ e ∈ before, ∃ shown, e.shown s = .ok shown) (result : Except Breakdown Nat)
    (events : List Event) :
    Transcript.settle s result (before ++ events) = (Transcript.settle s result events).after before := by
  induction before with
  | nil => rfl
  | cons e before ih =>
      obtain ⟨⟨shown, hshown⟩, hrest⟩ := List.forall_mem_cons.mp h
      rw [List.cons_append, Transcript.settle, hshown]
      simp only [ih hrest]
      rfl

-- A transcript ends as it would by itself, or over the first event that is not shown.
theorem settle_cases (s : Screen) (result : Except Breakdown Nat) (events : List Event) :
    (Transcript.settle s result events).result = result ∨
      ∃ e, (Transcript.settle s result events).result = .error (.screen e) := by
  induction events with
  | nil => exact .inl rfl
  | cons event events ih =>
      rw [Transcript.settle]
      cases event.shown s with
      | error e => exact .inr ⟨e, rfl⟩
      | ok shown => exact ih

theorem result_of_settled {t : Transcript} {s : Screen} {code : Nat}
    (h : (t.settled s).result = .ok code) : t.result = .ok code := by
  rcases settle_cases s t.result t.events with hresult | ⟨e, hresult⟩
  · exact hresult ▸ h
  · rw [Transcript.settled, hresult] at h
    cases h

theorem exists_of_isOk {ε α : Type} {x : Except ε α} (h : x.isOk = true) : ∃ a, x = .ok a := by
  cases x with
  | error e => cases h
  | ok a => exact ⟨a, rfl⟩

theorem isAccepted_iff (s : Files.Source) :
    isAccepted s = true ↔ ∃ v, s.content = .ok v ∧ Export.problems v = [] := by
  unfold isAccepted check
  cases s.content with
  | error e => simp [Except.isOk, Except.toBool]
  | ok v => cases hproblems : Export.problems v <;> simp [Except.isOk, Except.toBool, hproblems]

-- Loading that fails is no success, however it fails.
theorem notLoaded_result (e : LoadError) : (notLoaded e).result ≠ .ok 0 := by
  unfold notLoaded
  split
  · split <;> simp [failed, Transcript.ended, Transcript.broken]
  all_goals simp [failed, Transcript.ended, Transcript.broken]

theorem runValidate_of_loaded {sources : List Files.Source}
    (h : (loadDocuments w o).result = .ok sources) :
    runValidate w o = Transcript.after (loadDocuments w o).events
      (.ended (if sources.all isAccepted then 0 else 1) (sources.flatMap checkEvents)) := by
  unfold runValidate Loaded.andThen
  rw [h]

theorem runValidate_ok :
    (runValidate w o).result = .ok 0 ↔ ∃ sources, (loadDocuments w o).result = .ok sources ∧
      sources.all isAccepted = true := by
  cases hloaded : (loadDocuments w o).result with
  | error e =>
      have hresult : (runValidate w o).result = (notLoaded e).result := by
        unfold runValidate Loaded.andThen
        rw [hloaded]
        rfl
      rw [hresult]
      exact ⟨fun h => absurd h (notLoaded_result e), fun ⟨_, h, _⟩ => by cases h⟩
  | ok sources =>
      have hresult : (runValidate w o).result = .ok (if sources.all isAccepted then 0 else 1) := by
        rw [runValidate_of_loaded hloaded]
        rfl
      rw [hresult]
      constructor
      · intro h
        refine ⟨sources, rfl, Decidable.byContradiction fun hnot => ?_⟩
        rw [if_neg hnot] at h
        cases h
      · rintro ⟨_, h, hall⟩
        obtain rfl := Except.ok.inj h
        rw [if_pos hall]

-- Whether the source of a command is a directory.
def Origin.IsDirectory (w : World) (o : Origin) : Prop :=
  ∃ path, o.path? = some path ∧ w.files.isDirectory (.ofText path) = .ok true

-- The place that reports name a lone document by.
def Origin.place (o : Origin) : String :=
  match o.path? with
  | some path => (Files.Path.ofText path).text
  | none => documentPlace o

theorem logged_mem_logEvents {entry : Log.Entry} {log : List Log.Entry} :
    Event.logged entry ∈ logEvents log ↔ entry ∈ log := by
  simp [logEvents]

theorem result_ofLibrary {l : Library.Loaded} {library : Library} :
    (ofLibrary l).result = .ok library ↔ l.result = .ok library := by
  cases hresult : l.result <;> simp [ofLibrary, hresult, Except.mapError]

theorem logged_notMem_loadDocument (entry : Log.Entry) :
    Event.logged entry ∉ (loadDocument w o).events := by
  unfold loadDocument
  split
  · simp [callEvents]
  · split <;> simp

-- Away from directories one document is loaded in both ways, or none.
theorem lone_document (h : ¬ o.IsDirectory w) :
    (∃ e f, (loadDocuments w o).result = .error e ∧ (loadLibrary w o).result = .error f) ∨
    ∃ v, (loadDocuments w o).result = .ok [⟨o.place, .ok v⟩] ∧
      (∀ library, (loadLibrary w o).result = .ok library ↔
        (Library.ofDocument v).result = .ok library) ∧
      (∀ entry, .logged entry ∉ (loadDocuments w o).events) ∧
      (loadLibrary w o).events =
        (loadDocuments w o).events ++ logEvents (Library.ofDocument v).log := by
  unfold loadDocuments loadLibrary Origin.place
  cases hsource : o.path? with
  | none =>
      have hquiet := logged_notMem_loadDocument (w := w) (o := o)
      cases hdocument : (loadDocument w o).result with
      | error e => exact .inl ⟨e, e, by simp only [hdocument]; rfl, by simp only [hdocument]⟩
      | ok v =>
          refine .inr ⟨v, ?_, ?_, ?_, ?_⟩
          · simp only [hdocument]
            rfl
          · intro library
            simp only [hdocument]
            exact result_ofLibrary
          · exact hquiet
          · simp only [hdocument]
            rfl
  | some path =>
      have hplace : w.files.isDirectory (.ofText path) ≠ .ok true := fun htrue =>
        h ⟨path, hsource, htrue⟩
      dsimp only
      unfold Files.readPlace Library.ofPath
      cases hdirectory : w.files.isDirectory (.ofText path) with
      | error e => exact .inl ⟨_, _, rfl, rfl⟩
      | ok directory =>
          cases directory with
          | true => exact absurd hdirectory hplace
          | false =>
              cases hread : Files.read w.files (.ofText path) with
              | error e => exact .inl ⟨_, _, rfl, rfl⟩
              | ok v =>
                  refine .inr ⟨v, rfl, fun library => result_ofLibrary, fun entry => ?_, rfl⟩
                  exact List.not_mem_nil

-- The documents of a directory are what reading its entries gave, and reading came to their end.
theorem readAll_of_directory {path : String} (hsource : o.path? = some path)
    (hdirectory : w.files.isDirectory (.ofText path) = .ok true) {sources : List Files.Source}
    (h : (loadDocuments w o).result = .ok sources) :
    (Files.readAll w.files (Files.documentPaths w.files (.ofText path))).failure = none ∧
      (Files.readAll w.files (Files.documentPaths w.files (.ofText path))).sources = sources := by
  unfold loadDocuments Files.readPlace Files.readDirectory ofListing at h
  rw [hsource] at h
  simp only [hdirectory] at h
  generalize Files.readAll w.files (Files.documentPaths w.files (.ofText path)) = l at h ⊢
  split at h
  · rename_i hnone
    split at hnone
    · cases hnone
    · rename_i hfiles
      refine ⟨hnone, ?_⟩
      rw [if_neg hfiles] at h
      exact Except.ok.inj h
  · cases h

-- Loading takes these documents, all of them valid, and tells of repeated keys only.
structure LoadsWhole (w : World) (o : Origin) (documents : List (String × Value)) : Prop where
  sources : (loadDocuments w o).result = .ok (documents.map fun d => ⟨d.1, .ok d.2⟩)
  valid : ∀ d ∈ documents, Export.problems d.2 = []
  library : (loadLibrary w o).result =
    .ok (.ofGroups (documents.flatMap fun d => Library.groupsOf d.2))
  told : ∀ entry, .logged entry ∈ (loadLibrary w o).events →
    entry ∈ Library.addAllLog {} (documents.flatMap fun d => Library.groupsOf d.2)

theorem loadsWhole_directory {path : String} (hsource : o.path? = some path)
    (hdirectory : w.files.isDirectory (.ofText path) = .ok true) {sources : List Files.Source}
    (h : (loadDocuments w o).result = .ok sources)
    (hvalid : ∀ s ∈ sources, ∃ v, s.content = .ok v ∧ Export.problems v = []) :
    ∃ documents, LoadsWhole w o documents := by
  obtain ⟨hnone, hsources⟩ := readAll_of_directory hsource hdirectory h
  obtain ⟨documents, hpaths, hread, hdocuments⟩ := Files.documents_of_readAll hnone fun s hs =>
    (hvalid s (hsources ▸ hs)).imp fun v hv => hv.1
  rw [hdocuments] at hsources
  have hproblems : ∀ d ∈ documents, Export.problems d.2 = [] := fun d hd => by
    obtain ⟨v, heq, hproblems⟩ := hvalid ⟨d.1.text, .ok d.2⟩ (hsources ▸ List.mem_map_of_mem hd)
    cases heq
    exact hproblems
  have hlibrary : Library.ofPath w.files (.ofText path) =
      ⟨.ok (.ofGroups (documents.flatMap fun d => Library.groupsOf d.2)),
        Library.addAllLog {} (documents.flatMap fun d => Library.groupsOf d.2)⟩ := by
    rw [Library.ofPath_directory hdirectory, ← hpaths,
      Library.addPaths_of_valid {} fun d hd => ⟨hread d hd, hproblems d hd⟩]
    rfl
  have hload : loadLibrary w o = ofLibrary (Library.ofPath w.files (.ofText path)) := by
    unfold loadLibrary
    rw [hsource]
  refine ⟨documents.map fun d => (d.1.text, d.2), ⟨?_, List.forall_mem_map.mpr hproblems, ?_, ?_⟩⟩
  · rw [h, ← hsources, List.map_map]
    rfl
  · rw [hload, hlibrary, List.flatMap_map]
    rfl
  · intro entry hentry
    rw [hload, hlibrary] at hentry
    rw [List.flatMap_map]
    exact logged_mem_logEvents.mp hentry

theorem loadsWhole_alone (hlone : ¬ o.IsDirectory w) {sources : List Files.Source}
    (h : (loadDocuments w o).result = .ok sources)
    (hvalid : ∀ s ∈ sources, ∃ v, s.content = .ok v ∧ Export.problems v = []) :
    ∃ documents, LoadsWhole w o documents := by
  rcases lone_document hlone with ⟨e, -, he, -⟩ | ⟨v, hv, hlibrary, hquiet, hevents⟩
  · rw [h] at he
    cases he
  · rw [h] at hv
    obtain rfl := Except.ok.inj hv
    obtain ⟨_, heq, hproblems⟩ := hvalid _ List.mem_cons_self
    cases heq
    have hdocument := Library.ofDocument_of_valid hproblems
    refine ⟨[(o.place, v)], ⟨h, List.forall_mem_singleton.mpr hproblems, ?_, ?_⟩⟩
    · rw [List.flatMap_singleton, hlibrary, hdocument]
    · intro entry hentry
      rw [hevents, List.mem_append] at hentry
      rw [List.flatMap_singleton]
      have hlogged := logged_mem_logEvents.mp (hentry.resolve_left (hquiet entry))
      rwa [hdocument] at hlogged

-- What is found valid loads as a whole.
theorem loadsWhole_of_valid (h : (runValidate w o).result = .ok 0) :
    ∃ documents, LoadsWhole w o documents := by
  obtain ⟨sources, hloaded, hall⟩ := runValidate_ok.mp h
  have hvalid : ∀ s ∈ sources, ∃ v, s.content = .ok v ∧ Export.problems v = [] :=
    fun s hs => (isAccepted_iff s).mp (List.all_eq_true.mp hall s hs)
  by_cases hkind : o.IsDirectory w
  · obtain ⟨path, hsource, hdirectory⟩ := hkind
    exact loadsWhole_directory hsource hdirectory hloaded hvalid
  · exact loadsWhole_alone hkind hloaded hvalid

theorem shown_logged {log : List Log.Entry} {e : Event} (he : e ∈ logEvents log) (s : Screen) :
    e.shown s = .ok none := by
  obtain ⟨entry, -, rfl⟩ := List.mem_map.mp he
  rfl

theorem shown_loadDocuments (s : Screen) :
    ∀ e ∈ (loadDocuments w o).events, e.shown s = .ok none := by
  have hcalls : ∀ (calls : List Web.Call), ∀ e ∈ callEvents calls, e.shown s = .ok none := by
    intro calls e he
    obtain ⟨call, -, rfl⟩ := List.mem_map.mp he
    rfl
  unfold loadDocuments loadDocument
  split
  · exact fun e he => shown_logged he s
  · split
    · exact hcalls _
    · split <;> exact fun e he => absurd he List.not_mem_nil

-- How a valid document is reported.
def acceptedLine (place : String) (size : Nat) : String :=
  s!"[green]✓[/green] {place} ({size} field group(s))"

def sizeText (size : Nat) : List Char :=
  " (".toList ++ Nat.toDigits 10 size ++ " field group(s))".toList

theorem sizeText_plain (size : Nat) : ∀ c ∈ sizeText size, c ≠ '[' ∧ c.toNat < 0x10D800 := by
  have hfixed : (∀ c ∈ " (".toList, c ≠ '[' ∧ c.toNat < 0x10D800) ∧
      ∀ c ∈ " field group(s))".toList, c ≠ '[' ∧ c.toNat < 0x10D800 := by simp
  refine List.forall_mem_append.mpr ⟨List.forall_mem_append.mpr ⟨hfixed.1, fun c hc => ?_⟩, hfixed.2⟩
  have hdigit := Nat.isDigit_of_mem_toDigits (by omega) (by omega) hc
  simp only [Char.isDigit, Bool.and_eq_true, decide_eq_true_eq] at hdigit
  refine ⟨?_, ?_⟩
  · rintro rfl
    exact absurd hdigit.2 (by decide)
  · have hbound : c.toNat ≤ 57 := hdigit.2
    omega

theorem acceptedLine_eq (place : String) (size : Nat) : acceptedLine place size =
    String.ofList (styled "green".toList ['✓'] ++ (' ' :: place.toList ++ sizeText size)) := by
  have hline : acceptedLine place size =
      "[green]✓[/green]" ++ " " ++ place ++ " (" ++ String.ofList (Nat.toDigits 10 size) ++
        " field group(s))" := rfl
  have hmark : styled "green".toList ['✓'] = "[green]✓[/green]".toList := by decide
  rw [← String.toList_inj, String.toList_ofList, hline, hmark, sizeText]
  simp only [String.toList_append, String.toList_ofList, List.append_assoc]
  rfl

theorem green_isStyle : IsStyle "green".toList := ⟨by simp, by simp⟩

theorem shows_acceptedLine {s : Screen} (hs : s.Documented) {place : String} (hplace : '[' ∉ place.toList)
    (hbytes : ∃ bytes, Text.Utf8.encode place.toList = .ok bytes) (size : Nat) :
    ∃ cs, s.paragraph .out (acceptedLine place size) = .ok cs := by
  have hrest : '[' ∉ ' ' :: place.toList ++ sizeText size := fun hmem => by
    rcases List.mem_append.mp hmem with hmem | hmem
    · exact hplace ((List.mem_cons.mp hmem).resolve_left (by decide))
    · exact (sizeText_plain size _ hmem).1 rfl
  have hspace : ∃ bytes, Text.Utf8.encode [' '] = .ok bytes :=
    Text.Utf8.encode_ok_of_low (by simp)
  have hsize : ∃ bytes, Text.Utf8.encode (sizeText size) = .ok bytes :=
    Text.Utf8.encode_ok_of_low fun c hc => (sizeText_plain size c hc).2
  have hmark : ∃ bytes, Text.Utf8.encode ['✓'] = .ok bytes :=
    Text.Utf8.encode_ok_of_low (by simp)
  rw [acceptedLine_eq]
  exact hs.shows .out green_isStyle (by decide) (by decide) hrest hmark
    (Text.Utf8.encode_ok_append (Text.Utf8.encode_ok_append hspace hbytes) hsize)

-- A place that closes what is not open.
structure Closes (place : String) (before name after : List Char) : Prop where
  eq : place.toList = before ++ '[' :: ('/' :: name ++ ']' :: after)
  first : '[' ∉ before
  plain : '\\' ∉ before
  style : IsStyle name

theorem refuses_acceptedLine {s : Screen} (hs : s.Documented) {place : String}
    {before name after : List Char} (h : Closes place before name after) (size : Nat) :
    ∃ message, s.paragraph .out (acceptedLine place size) = .error (.markup message) := by
  have hfirst : '[' ∉ ' ' :: before := List.not_mem_cons_of_ne_of_not_mem (by decide) h.first
  have hplain : '\\' ∉ ' ' :: before := List.not_mem_cons_of_ne_of_not_mem (by decide) h.plain
  have hmark : '[' ∉ ['✓'] ∧ '\\' ∉ ['✓'] := by decide
  have hrefused := hs.refuses .out (after ++ sizeText size) green_isStyle hmark.1 hmark.2 hfirst hplain
    h.style
  have hline : ' ' :: place.toList ++ sizeText size =
      ' ' :: before ++ '[' :: ('/' :: name ++ ']' :: (after ++ sizeText size)) := by
    rw [h.eq]
    simp only [List.append_assoc, List.cons_append]
  rw [acceptedLine_eq, hline]
  exact hrefused

theorem checkEvents_of_valid {place : String} {v : Value} (h : Export.problems v = []) :
    checkEvents ⟨place, .ok v⟩ = logEvents (Library.ofDocument v).log ++
      [.say .out (acceptedLine place (Library.ofGroups (Library.groupsOf v)).size)] := by
  have hcheck : check ⟨place, .ok v⟩ = .ok (Library.ofDocument v) := by
    simp only [check, h]
  unfold checkEvents
  rw [hcheck]
  simp only [Library.ofDocument_of_valid h]
  rfl

-- A lone document that loads is found valid, before its report meets the screen.
theorem valid_of_loaded (h : ¬ o.IsDirectory w) {library : Library}
    (hlibrary : (loadLibrary w o).result = .ok library) :
    ∃ v, Export.problems v = [] ∧ runValidate w o =
      Transcript.after (loadDocuments w o).events (.ended 0 (checkEvents ⟨o.place, .ok v⟩)) := by
  rcases lone_document h with ⟨-, e, -, he⟩ | ⟨v, hv, hload, -, -⟩
  · rw [hlibrary] at he
    cases he
  · have hvalid := Library.valid_of_ofDocument ((hload library).mp hlibrary)
    have haccepted : isAccepted ⟨o.place, .ok v⟩ = true := (isAccepted_iff _).mpr ⟨v, rfl, hvalid⟩
    refine ⟨v, hvalid, ?_⟩
    rw [runValidate_of_loaded hv, List.all_cons, haccepted, List.flatMap_singleton]
    rfl

-- The line of its report is all that such a document puts on the screen.
theorem settled_of_loaded (h : ¬ o.IsDirectory w) {library : Library}
    (hlibrary : (loadLibrary w o).result = .ok library) :
    (runValidate w o).result = .ok 0 ∧ ∃ size, ((runValidate w o).settled w.screen).result =
      match w.screen.paragraph .out (acceptedLine o.place size) with
      | .ok _ => .ok 0
      | .error e => .error (.screen e) := by
  obtain ⟨v, hvalid, hrun⟩ := valid_of_loaded h hlibrary
  have hquiet : ∀ e ∈ (loadDocuments w o).events ++ logEvents (Library.ofDocument v).log,
      ∃ shown, e.shown w.screen = .ok shown := fun e he =>
    ⟨none, (List.mem_append.mp he).elim (shown_loadDocuments w.screen e) (shown_logged · w.screen)⟩
  let size := (Library.ofGroups (Library.groupsOf v)).size
  have hsettled : (runValidate w o).settled w.screen = (Transcript.settle w.screen (.ok 0)
      [.say .out (acceptedLine o.place size)]).after
        ((loadDocuments w o).events ++ logEvents (Library.ofDocument v).log) := by
    rw [hrun, checkEvents_of_valid hvalid, ← settle_append hquiet, List.append_assoc]
    rfl
  refine ⟨by rw [hrun]; rfl, size, ?_⟩
  rw [hsettled, Transcript.settle, Event.shown]
  cases w.screen.paragraph .out (acceptedLine o.place size) <;> rfl

theorem mem_keys_of_valid {documents : List (String × Value)}
    (h : ∀ d ∈ documents, Export.problems d.2 = []) (key : String) :
    key ∈ (Library.ofGroups (documents.flatMap fun d => Library.groupsOf d.2)).keys ↔
      ∃ d ∈ documents, ∃ members,
        .object members ∈ Export.candidates d.2 ∧ textIn members "key" = key := by
  rw [Library.mem_keys_ofGroups, List.map_flatMap, List.mem_flatMap]
  refine exists_congr fun d => and_congr_right fun hd => ?_
  constructor
  · intro hkey
    obtain ⟨g, hg, rfl⟩ := List.mem_map.mp hkey
    obtain ⟨c, hc, rfl⟩ := List.mem_map.mp hg
    obtain ⟨members, rfl⟩ := Export.object_of_valid (h d hd) hc
    exact ⟨members, hc, rfl⟩
  · rintro ⟨members, hmembers, rfl⟩
    exact List.mem_map.mpr ⟨_, List.mem_map_of_mem hmembers, rfl⟩

-- Whatever is found valid loads without a document passed over, under the keys that its groups hold.
-- A lone document that loads is found valid, unless the screen does not show the line that says so. A
-- screen that does as documented shows it where the place has no opening bracket and can be written, and
-- breaks the command off where the place holds the tag that closes a style.
theorem validate_agrees_with_load (w : World) (o : Origin) :
    (((runValidate w o).settled w.screen).result = .ok 0 →
      ∃ (documents : List (String × Value)) (library : Library),
        (loadDocuments w o).result = .ok (documents.map fun d => ⟨d.1, .ok d.2⟩) ∧
        (∀ d ∈ documents, Export.problems d.2 = []) ∧
        (loadLibrary w o).result = .ok library ∧
        (∀ entry, .logged entry ∈ (loadLibrary w o).events → ∃ key : String,
          entry = Log.warning s!"Duplicate field group key {key}; keeping the first") ∧
        ∀ key, key ∈ library.keys ↔ ∃ d ∈ documents, ∃ members,
          .object members ∈ Export.candidates d.2 ∧ textIn members "key" = key) ∧
    (¬ o.IsDirectory w →
      ((∃ library, (loadLibrary w o).result = .ok library) ↔
        ((runValidate w o).settled w.screen).result = .ok 0 ∨
          (runValidate w o).result = .ok 0 ∧
            ∃ e, ((runValidate w o).settled w.screen).result = .error (.screen e)) ∧
      (w.screen.Documented → '[' ∉ o.place.toList →
        (∃ bytes, Text.Utf8.encode o.place.toList = .ok bytes) →
        ((∃ library, (loadLibrary w o).result = .ok library) ↔
          ((runValidate w o).settled w.screen).result = .ok 0)) ∧
      (w.screen.Documented → ∀ before name after, Closes o.place before name after →
        ((∃ library, (loadLibrary w o).result = .ok library) ↔ (runValidate w o).result = .ok 0 ∧
          ∃ message, ((runValidate w o).settled w.screen).result =
            .error (.screen (.markup message))))) := by
  have hloads : (runValidate w o).result = .ok 0 → ∃ library, (loadLibrary w o).result = .ok library := by
    intro h
    obtain ⟨_, hwhole⟩ := loadsWhole_of_valid h
    exact ⟨_, hwhole.library⟩
  refine ⟨fun h => ?whole, fun hlone => ⟨⟨?loaded, ?found⟩, fun hscreen hplace hbytes => ⟨?_, ?_⟩,
    fun hscreen before name after hcloses => ⟨?_, fun h => hloads h.1⟩⟩⟩
  case whole =>
    obtain ⟨documents, hwhole⟩ := loadsWhole_of_valid (result_of_settled h)
    refine ⟨documents, _, hwhole.sources, hwhole.valid, hwhole.library, fun entry hentry => ?_,
      mem_keys_of_valid hwhole.valid⟩
    obtain ⟨g, -, heq⟩ := Library.mem_addAllLog (hwhole.told entry hentry)
    exact ⟨g.key, heq⟩
  case loaded =>
    rintro ⟨library, hlibrary⟩
    obtain ⟨hresult, -⟩ := settled_of_loaded hlone hlibrary
    rcases settle_cases w.screen (runValidate w o).result (runValidate w o).events with
      hsettled | ⟨e, hsettled⟩
    · exact .inl (hsettled.trans hresult)
    · exact .inr ⟨hresult, e, hsettled⟩
  case found =>
    exact fun h => hloads (h.elim result_of_settled And.left)
  · rintro ⟨library, hlibrary⟩
    obtain ⟨-, size, hsettled⟩ := settled_of_loaded hlone hlibrary
    obtain ⟨cs, hcs⟩ := shows_acceptedLine hscreen hplace hbytes size
    rw [hsettled, hcs]
  · exact fun h => hloads (result_of_settled h)
  · rintro ⟨library, hlibrary⟩
    obtain ⟨hresult, size, hsettled⟩ := settled_of_loaded hlone hlibrary
    obtain ⟨message, hmessage⟩ := refuses_acceptedLine hscreen hcloses size
    exact ⟨hresult, message, by rw [hsettled, hmessage]⟩

-- A world that holds one export, as a file and on its input.
def worldOf (steps : List String) : World where
  files := ⟨[(steps, Library.firstPage)]⟩
  environment := []
  input := "[\x7b\"key\": \"group_page\", \"title\": \"Page\"\x7d]".toList
  send := fun _ => .failed ""
  source := fun _ => ⟨"", 0⟩
  counter := 0
  time := ""
  readVariables := fun _ environment => .ok environment
  screen := tagScreen

theorem validate_of_input :
    ¬ Origin.IsDirectory (worldOf []) { stdin := true } ∧ (worldOf []).screen.Documented ∧
    ((runValidate (worldOf []) { stdin := true }).settled (worldOf []).screen).result = .ok 0 ∧
    ∃ library, (loadLibrary (worldOf []) { stdin := true }).result = .ok library := by
  have hlone : ¬ Origin.IsDirectory (worldOf []) { stdin := true } := by
    rintro ⟨path, hsource, -⟩
    cases hsource
  have hplace : Origin.place { stdin := true } = "<stdin>" := rfl
  have hbytes : ∃ bytes, Text.Utf8.encode (Origin.place { stdin := true }).toList = .ok bytes := by
    rw [hplace]
    exact Text.Utf8.encode_ok_of_low (by simp)
  have hloads : ∃ library, (loadLibrary (worldOf []) { stdin := true }).result = .ok library :=
    exists_of_isOk (by decide +kernel)
  obtain ⟨hvalid, hlater⟩ := validate_agrees_with_load (worldOf []) { stdin := true }
  have hscreen : (worldOf []).screen.Documented := tagScreen_documented
  have hsettled := ((hlater hlone).2.1 hscreen (by decide) hbytes).mp hloads
  obtain ⟨_, library, -, -, hlibrary, -⟩ := hvalid hsettled
  exact ⟨hlone, hscreen, hsettled, library, hlibrary⟩

-- Two steps of a path may hold a closing tag between them, which the report of the file breaks off at.
theorem validate_of_closingPlace :
    (∃ library, (loadLibrary (worldOf ["a[", "b].json"]) { source := some "a[/b].json" }).result =
      .ok library) ∧
    ¬ Origin.IsDirectory (worldOf ["a[", "b].json"]) { source := some "a[/b].json" } ∧
    ∃ message, ((runValidate (worldOf ["a[", "b].json"]) { source := some "a[/b].json" }).settled
      tagScreen).result = .error (.screen (.markup message)) := by
  have hlone : ¬ Origin.IsDirectory (worldOf ["a[", "b].json"]) { source := some "a[/b].json" } := by
    rintro ⟨path, hsource, hdirectory⟩
    obtain rfl := Option.some.inj hsource
    exact absurd hdirectory (by decide +kernel)
  obtain ⟨library, hlibrary⟩ := exists_of_isOk
    (x := (loadLibrary (worldOf ["a[", "b].json"]) { source := some "a[/b].json" }).result)
    (by decide +kernel)
  have hplace : Origin.place { source := some "a[/b].json" } = "a[/b].json" := by decide +kernel
  have hcloses : Closes "a[/b].json" "a".toList "b".toList ".json".toList :=
    ⟨by decide, by decide, by decide, by simp, by simp⟩
  obtain ⟨-, size, hsettled⟩ := settled_of_loaded hlone hlibrary
  have hscreen : (worldOf ["a[", "b].json"]).screen.Documented := tagScreen_documented
  obtain ⟨message, hmessage⟩ := refuses_acceptedLine hscreen hcloses size
  rw [hplace, hmessage] at hsettled
  exact ⟨⟨library, hlibrary⟩, hlone, message, hsettled⟩

end FieldTemplates.Command
