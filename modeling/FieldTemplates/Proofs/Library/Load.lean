import FieldTemplates.Library.Load
import FieldTemplates.Proofs.Export
import FieldTemplates.Proofs.Library.Basic
import FieldTemplates.Proofs.Text.Sorted

namespace FieldTemplates

namespace Files

variable {files : Tree} {path : Path} {v : Value} {e : ReadError}

theorem nodup_eraseDups (names : List String) : names.eraseDups.Nodup := by
  induction h : names.length using Nat.strong_induction_on generalizing names with
  | _ n ih =>
      cases names with
      | nil => exact List.nodup_nil
      | cons name names =>
          have hshorter : (names.filter fun other => !other == name).length < n := by
            rw [← h]
            exact Nat.lt_succ_of_le (List.length_filter_le _ _)
          rw [List.eraseDups_cons]
          refine List.nodup_cons.mpr ⟨fun hmem => ?_, ih _ hshorter _ rfl⟩
          have hkept := (List.mem_filter.mp (List.mem_eraseDups.mp hmem)).2
          simp at hkept

-- The entries that a directory offers as documents.
def documentNames (files : Tree) (directory : Path) : List String :=
  (files.entries directory).filter (·.endsWith ".json")

theorem mem_documentNames {directory : Path} {name : String} :
    name ∈ documentNames files directory ↔
      name ∈ files.entries directory ∧ name.endsWith ".json" = true :=
  List.mem_filter

theorem ordered_documentNames (files : Tree) (directory : Path) :
    (documentNames files directory).Pairwise (Text.precedes · · = true) := by
  refine List.Pairwise.filter _ ?_
  rw [Tree.entries]
  split
  · exact Text.sorted_pairwise (nodup_eraseDups _)
  · exact List.Pairwise.nil

-- An entry that reading comes past: a file, and no document beyond the limits of the reader.
def Passable (files : Tree) (path : Path) : Prop :=
  ∃ bytes, files.find? path = .ok (some (.file bytes)) ∧
    ∀ cs limit, Text.Utf8.decodeMarked bytes = .ok cs →
      Json.decode (Text.plainNewlines cs) ≠ .error (.beyond limit)

theorem passable_iff : Passable files path ↔ ∀ e, read files path = .error e → e.isLocal = true := by
  constructor
  · rintro ⟨bytes, hfile, hlimit⟩ e he
    unfold read at he
    simp only [hfile] at he
    split at he
    · cases he
      rfl
    · rename_i cs hcs
      split at he
      · cases he
        rfl
      · rename_i limit hbeyond
        exact absurd hbeyond (hlimit cs limit hcs)
      · cases he
  · intro h
    unfold read at h
    split at h
    · cases h _ rfl
    · rename_i bytes hfile
      refine ⟨bytes, hfile, fun cs limit hcs hbeyond => ?_⟩
      rw [hcs] at h
      simp only [hbeyond] at h
      cases h _ rfl
    · cases h _ rfl

-- Whether reading comes past an entry can be tried out.
instance (files : Tree) (path : Path) : Decidable (Passable files path) :=
  decidable_of_iff ((match read files path with
    | .ok _ => true
    | .error e => e.isLocal) = true) (by
      rw [passable_iff]
      cases read files path with
      | ok v => simp
      | error e => simp)

-- The same node makes the same document.
theorem read_congr {others : Tree} {place : Path} (h : files.find? path = others.find? place)
    (htext : path.text = place.text) : read files path = read others place := by
  unfold read
  rw [h, htext]

theorem entries_eq {directory : Path} (steps : List String) {names : List String}
    (h : files.place directory = .ok steps) (hordered : names.Pairwise (Text.precedes · · = true))
    (hperm : (files.nodes.filterMap fun e => Tree.entryName? steps e.1).eraseDups.Perm names) :
    files.entries directory = names := by
  unfold Tree.entries
  rw [h]
  exact Text.sorted_eq hordered hperm

theorem readAll_cons (files : Tree) (path : Path) (paths : List Path) :
    readAll files (path :: paths) = match read files path with
      | .ok v => (readAll files paths).cons ⟨path.text, .ok v⟩ []
      | .error e =>
        if e.isLocal then
          (readAll files paths).cons ⟨path.text, .error e.message⟩
            [Log.warning s!"Skipping {path.name}: {e.message}"]
        else { failure := some e } := readAll.eq_def ..

theorem readAll_of_read (h : read files path = .ok v) (paths : List Path) :
    readAll files (path :: paths) = (readAll files paths).cons ⟨path.text, .ok v⟩ [] := by
  rw [readAll_cons, h]

theorem readAll_of_local (h : read files path = .error e) (hlocal : e.isLocal = true)
    (paths : List Path) :
    readAll files (path :: paths) = (readAll files paths).cons ⟨path.text, .error e.message⟩
      [Log.warning s!"Skipping {path.name}: {e.message}"] := by
  rw [readAll_cons, h]
  exact if_pos hlocal

theorem readAll_of_blocked (h : read files path = .error e) (hlocal : e.isLocal = false)
    (paths : List Path) : readAll files (path :: paths) = { failure := some e } := by
  rw [readAll_cons, h]
  exact if_neg (fun htrue => by rw [hlocal] at htrue; cases htrue)

-- Where every entry was read, reading took the documents from the paths one by one.
theorem documents_of_readAll {paths : List Path} (hnone : (readAll files paths).failure = none)
    (hread : ∀ s ∈ (readAll files paths).sources, ∃ v, s.content = .ok v) :
    ∃ documents : List (Path × Value), documents.map Prod.fst = paths ∧
      (∀ d ∈ documents, read files d.1 = .ok d.2) ∧
      readAll files paths = { sources := documents.map fun d => ⟨d.1.text, .ok d.2⟩ } := by
  induction paths with
  | nil => exact ⟨[], rfl, fun d hd => absurd hd List.not_mem_nil, rfl⟩
  | cons path paths ih =>
      cases hpath : read files path with
      | ok v =>
          rw [readAll_of_read hpath] at hnone hread
          obtain ⟨documents, hpaths, hdocuments, hall⟩ :=
            ih hnone fun s hs => hread s (List.mem_cons_of_mem _ hs)
          refine ⟨(path, v) :: documents, by rw [List.map_cons, hpaths],
            List.forall_mem_cons.mpr ⟨hpath, hdocuments⟩, ?_⟩
          rw [readAll_of_read hpath, hall]
          rfl
      | error e =>
          cases hlocal : e.isLocal with
          | true =>
              rw [readAll_of_local hpath hlocal] at hread
              obtain ⟨v, hv⟩ := hread _ List.mem_cons_self
              cases hv
          | false =>
              rw [readAll_of_blocked hpath hlocal] at hnone
              cases hnone

end Files

namespace Library

open Files (documentNames Passable read readAll)

variable {files : Files.Tree} {path : Files.Path} {v : Value} {e : Files.ReadError}

-- The groups of a document, if it can be read and is a valid export.
def validGroups? (files : Files.Tree) (path : Files.Path) : Option (List Group) :=
  match read files path with
  | .error _ => none
  | .ok v => (Export.load v).toOption

-- The entries of a directory that are valid exports, by name and with their groups.
def validEntries (files : Files.Tree) (directory : Files.Path) : List (String × List Group) :=
  (documentNames files directory).filterMap fun name =>
    (validGroups? files (directory.child name)).map (name, ·)

theorem addPaths_cons (files : Files.Tree) (l : Library) (path : Files.Path)
    (paths : List Files.Path) :
    addPaths files l (path :: paths) =
      match (readAll files [path]).failure with
      | some e => { result := .error (.read e) }
      | none =>
        let (l, added) := (readAll files [path]).sources.foldl (fun (l, log) s =>
          let (l, more) := l.addSource s
          (l, log ++ more)) (l, [])
        { addPaths files l paths with
          log := (readAll files [path]).log ++ added ++ (addPaths files l paths).log } :=
  addPaths.eq_def ..

theorem addPaths_of_read (l : Library) (h : read files path = .ok v) (paths : List Files.Path) :
    addPaths files l (path :: paths) =
      { addPaths files (l.addSource ⟨path.text, .ok v⟩).1 paths with
        log := (l.addSource ⟨path.text, .ok v⟩).2 ++
          (addPaths files (l.addSource ⟨path.text, .ok v⟩).1 paths).log } := by
  rw [addPaths_cons, Files.readAll_of_read h]
  rfl

theorem addPaths_of_local (l : Library) (h : read files path = .error e) (hlocal : e.isLocal = true)
    (paths : List Files.Path) :
    addPaths files l (path :: paths) =
      { addPaths files l paths with
        log := Log.warning s!"Skipping {path.name}: {e.message}" :: (addPaths files l paths).log } := by
  rw [addPaths_cons, Files.readAll_of_local h hlocal]
  rfl

theorem addPaths_of_blocked (l : Library) (h : read files path = .error e)
    (hlocal : e.isLocal = false) (paths : List Files.Path) :
    addPaths files l (path :: paths) = { result := .error (.read e) } := by
  rw [addPaths_cons, Files.readAll_of_blocked h hlocal]

theorem addSource_fst (l : Library) (h : read files path = .ok v) :
    (l.addSource ⟨path.text, .ok v⟩).1 = l.addAll ((validGroups? files path).getD []) := by
  unfold addSource validGroups?
  rw [h]
  dsimp only
  cases Export.load v <;> rfl

-- What is passed over leaves the library as it was, so the run adds the valid groups alone.
theorem addPaths_of_passable (l : Library) {paths : List Files.Path}
    (h : ∀ path ∈ paths, Passable files path) :
    (addPaths files l paths).result =
      .ok (l.addAll (paths.flatMap fun path => (validGroups? files path).getD [])) := by
  induction paths generalizing l with
  | nil => rfl
  | cons path paths ih =>
      have hrest : ∀ path ∈ paths, Passable files path := fun path hpath =>
        h path (List.mem_cons_of_mem _ hpath)
      have hpath := Files.passable_iff.mp (h path List.mem_cons_self)
      rw [List.flatMap_cons, addAll_append]
      cases hread : read files path with
      | ok v =>
          rw [addPaths_of_read l hread, ← addSource_fst l hread]
          exact ih _ hrest
      | error e =>
          have hnone : validGroups? files path = none := by simp only [validGroups?, hread]
          rw [addPaths_of_local l hread (hpath e hread), hnone]
          exact ih l hrest

theorem passable_of_addPaths {l library : Library} {paths : List Files.Path}
    (h : (addPaths files l paths).result = .ok library) : ∀ path ∈ paths, Passable files path := by
  induction paths generalizing l with
  | nil => exact fun path hpath => absurd hpath List.not_mem_nil
  | cons first paths ih =>
      cases hread : read files first with
      | ok v =>
          rw [addPaths_of_read l hread] at h
          refine List.forall_mem_cons.mpr ⟨Files.passable_iff.mpr fun e he => ?_, ih h⟩
          rw [hread] at he
          cases he
      | error e =>
          cases hlocal : e.isLocal with
          | true =>
              rw [addPaths_of_local l hread hlocal] at h
              refine List.forall_mem_cons.mpr ⟨Files.passable_iff.mpr fun other he => ?_, ih h⟩
              rw [hread] at he
              cases he
              exact hlocal
          | false =>
              rw [addPaths_of_blocked l hread hlocal] at h
              cases h

-- The groups of a document, whether or not it is valid.
def groupsOf (v : Value) : List Group := (Export.candidates v).map Export.groupOf

theorem ofDocument_of_valid (h : Export.problems v = []) :
    ofDocument v = ⟨.ok (ofGroups (groupsOf v)), addAllLog {} (groupsOf v)⟩ := by
  rw [ofDocument, Export.load_of_valid h]
  rfl

theorem valid_of_ofDocument {library : Library} (h : (ofDocument v).result = .ok library) :
    Export.problems v = [] := by
  cases hproblems : Export.problems v with
  | nil => rfl
  | cons p ps =>
      unfold ofDocument Export.load at h
      simp only [hproblems] at h
      cases h

-- A run over valid documents adds all their groups and tells of repeated keys only.
theorem addPaths_of_valid (l : Library) {documents : List (Files.Path × Value)}
    (h : ∀ d ∈ documents, read files d.1 = .ok d.2 ∧ Export.problems d.2 = []) :
    addPaths files l (documents.map Prod.fst) =
      ⟨.ok (l.addAll (documents.flatMap fun d => groupsOf d.2)),
        l.addAllLog (documents.flatMap fun d => groupsOf d.2)⟩ := by
  induction documents generalizing l with
  | nil => rfl
  | cons d documents ih =>
      obtain ⟨hread, hvalid⟩ := h d List.mem_cons_self
      have hsource : l.addSource ⟨d.1.text, .ok d.2⟩ =
          (l.addAll (groupsOf d.2), l.addAllLog (groupsOf d.2)) := by
        unfold addSource
        simp only [Export.load_of_valid hvalid]
        rfl
      rw [List.map_cons, addPaths_of_read l hread, hsource,
        ih _ fun d hd => h d (List.mem_cons_of_mem _ hd), List.flatMap_cons, addAll_append,
        addAllLog_append]

theorem flatMap_validEntries (files : Files.Tree) (directory : Files.Path) :
    (validEntries files directory).flatMap (·.2) =
      (Files.documentPaths files directory).flatMap fun path => (validGroups? files path).getD [] := by
  have hpaths : Files.documentPaths files directory =
      (documentNames files directory).map directory.child := rfl
  rw [hpaths, validEntries]
  induction documentNames files directory with
  | nil => rfl
  | cons name names ih =>
      rw [List.map_cons, List.flatMap_cons, ← ih, List.filterMap_cons]
      cases validGroups? files (directory.child name) <;> rfl

theorem ordered_validEntries (files : Files.Tree) (directory : Files.Path) :
    (validEntries files directory).Pairwise fun a b => Text.precedes a.1 b.1 = true := by
  refine List.Pairwise.filterMap _ (fun name other hordered a ha b hb => ?_)
    (Files.ordered_documentNames files directory)
  obtain ⟨_, -, rfl⟩ := Option.map_eq_some_iff.mp ha
  obtain ⟨_, -, rfl⟩ := Option.map_eq_some_iff.mp hb
  exact hordered

theorem ofPath_directory {directory : Files.Path} (h : files.isDirectory directory = .ok true) :
    ofPath files directory = addPaths files {} (Files.documentPaths files directory) := by
  unfold ofPath
  rw [h]

theorem ofPath_of_passable {directory : Files.Path} (h : files.isDirectory directory = .ok true)
    (hpassable : ∀ name ∈ documentNames files directory, Passable files (directory.child name)) :
    (ofPath files directory).result =
      .ok (ofGroups ((validEntries files directory).flatMap (·.2))) := by
  have hpaths : ∀ path ∈ Files.documentPaths files directory, Passable files path := fun path hpath => by
    obtain ⟨name, hname, rfl⟩ := List.mem_map.mp hpath
    exact hpassable name hname
  rw [ofPath_directory h, addPaths_of_passable {} hpaths, flatMap_validEntries]
  rfl

theorem passable_of_ofPath {directory : Files.Path} {library : Library}
    (h : files.isDirectory directory = .ok true) (hlibrary : (ofPath files directory).result = .ok library) :
    ∀ name ∈ documentNames files directory, Passable files (directory.child name) := fun name hname => by
  rw [ofPath_directory h] at hlibrary
  exact passable_of_addPaths hlibrary _ (List.mem_map_of_mem hname)

-- A directory gives a library as soon as reading comes past each of its entries. It holds the groups of
-- the valid entries in the order of their names, of every key the first, and no other entry matters.
theorem ofPath_holds_valid_entries {directory : Files.Path}
    (h : files.isDirectory directory = .ok true) :
    ((∃ library, (ofPath files directory).result = .ok library) ↔
      ∀ name ∈ files.entries directory, name.endsWith ".json" = true →
        Passable files (directory.child name)) ∧
    ((validEntries files directory).Pairwise fun a b => Text.precedes a.1 b.1 = true) ∧
    ∀ library, (ofPath files directory).result = .ok library →
      (library.groups.Sublist ((validEntries files directory).flatMap (·.2)) ∧ library.keys.Nodup ∧
        ∀ key, library.find? key =
          ((validEntries files directory).flatMap (·.2)).find? (·.key == key)) ∧
      ∀ (others : Files.Tree) (place : Files.Path), others.isDirectory place = .ok true →
        (∀ name ∈ others.entries place, name.endsWith ".json" = true →
          Passable others (place.child name)) →
        (∀ entry, entry ∈ validEntries files directory ↔ entry ∈ validEntries others place) →
        (ofPath others place).result = .ok library := by
  refine ⟨⟨?_, ?_⟩, ordered_validEntries files directory, ?_⟩
  · rintro ⟨library, hlibrary⟩ name hname hjson
    exact passable_of_ofPath h hlibrary name (Files.mem_documentNames.mpr ⟨hname, hjson⟩)
  · intro hpassable
    refine ⟨_, ofPath_of_passable h fun name hname => ?_⟩
    obtain ⟨hentry, hjson⟩ := Files.mem_documentNames.mp hname
    exact hpassable name hentry hjson
  · intro library hlibrary
    have hgroups := ofPath_of_passable h (passable_of_ofPath h hlibrary)
    rw [hlibrary] at hgroups
    obtain rfl := Except.ok.inj hgroups
    refine ⟨⟨sublist_ofGroups _, nodup_ofGroups _, find?_ofGroups _⟩, ?_⟩
    intro others place hplace hpassable hentries
    have hsame : validEntries files directory = validEntries others place :=
      Text.eq_of_ordered Prod.fst (ordered_validEntries files directory)
        (ordered_validEntries others place) hentries
    rw [hsame]
    refine ofPath_of_passable hplace fun name hname => ?_
    obtain ⟨hentry, hjson⟩ := Files.mem_documentNames.mp hname
    exact hpassable name hentry hjson

def syncDirectory : Files.Path := ⟨"", ["acf-json"]⟩

def textFile (text : String) : Files.Node := .file (text.toList.map fun c => c.toNat.toUInt8)

def firstPage : Files.Node := textFile
  "\x7b\"key\": \"group_page\", \"title\": \"First\", \"fields\": []\x7d"

def laterPage : Files.Node := textFile
  "\x7b\"key\": \"group_page\", \"title\": \"Later\", \"fields\": []\x7d"

-- A document that is no export, bytes that are no text, two exports of one key, and a file of another kind.
def mixedTree : Files.Tree := ⟨[
  (["acf-json", "d.json"], laterPage), (["acf-json", "c.json"], firstPage),
  (["acf-json", "b.json"], .file [0xFF]), (["acf-json", "a.json"], textFile "[\x7b\x7d]"),
  (["acf-json", "notes.txt"], .file [])]⟩

def cleanTree : Files.Tree := ⟨[
  (["acf-json", "c.json"], firstPage), (["acf-json", "d.json"], laterPage)]⟩

theorem ofPath_of_mixedTree :
    mixedTree.isDirectory syncDirectory = .ok true ∧
    ∃ library, (ofPath mixedTree syncDirectory).result = .ok library ∧
      (library.find? "group_page").map Group.title = some "First" ∧
      (ofPath cleanTree syncDirectory).result = .ok library := by
  have hmixed : mixedTree.entries syncDirectory =
      ["a.json", "b.json", "c.json", "d.json", "notes.txt"] :=
    Files.entries_eq ["acf-json"] (by decide +kernel) (by decide +kernel) (by decide +kernel)
  have hclean : cleanTree.entries syncDirectory = ["c.json", "d.json"] :=
    Files.entries_eq ["acf-json"] (by decide +kernel) (by decide +kernel) (by decide +kernel)
  have hdirectory : mixedTree.isDirectory syncDirectory = .ok true := by decide +kernel
  have hpassable : ∀ name ∈ mixedTree.entries syncDirectory, name.endsWith ".json" = true →
      Passable mixedTree (syncDirectory.child name) := by
    rw [hmixed]
    decide +kernel
  have hpassableClean : ∀ name ∈ cleanTree.entries syncDirectory, name.endsWith ".json" = true →
      Passable cleanTree (syncDirectory.child name) := by
    rw [hclean]
    decide +kernel
  -- The first two entries give no groups, and the others are the same documents in both trees.
  have hentries : validEntries mixedTree syncDirectory = validEntries cleanTree syncDirectory := by
    have hmixedNames : documentNames mixedTree syncDirectory =
        ["a.json", "b.json"] ++ ["c.json", "d.json"] := by
      rw [documentNames, hmixed]
      decide +kernel
    have hcleanNames : documentNames cleanTree syncDirectory = ["c.json", "d.json"] := by
      rw [documentNames, hclean]
      decide +kernel
    have hnone : ∀ name ∈ ["a.json", "b.json"],
        (validGroups? mixedTree (syncDirectory.child name)).isNone = true := by decide +kernel
    have hnode : ∀ name ∈ ["c.json", "d.json"], mixedTree.find? (syncDirectory.child name) =
        cleanTree.find? (syncDirectory.child name) := by decide +kernel
    rw [validEntries, validEntries, hmixedNames, hcleanNames, List.filterMap_append,
      List.filterMap_eq_nil_iff.mpr fun name hname => by
        rw [Option.isNone_iff_eq_none.mp (hnone name hname), Option.map_none], List.nil_append]
    refine List.filterMap_congr fun name hname => ?_
    rw [validGroups?, validGroups?, Files.read_congr (hnode name hname) rfl]
  obtain ⟨hloads, -, hholds⟩ := ofPath_holds_valid_entries hdirectory
  obtain ⟨library, hlibrary⟩ := hloads.mpr hpassable
  obtain ⟨⟨-, -, hfind⟩, hothers⟩ := hholds library hlibrary
  refine ⟨hdirectory, library, hlibrary, ?_, ?_⟩
  · rw [hfind, validEntries, documentNames, hmixed]
    decide +kernel
  · exact hothers cleanTree syncDirectory (by decide +kernel) hpassableClean fun entry => by rw [hentries]

-- A directory among the entries hides the export that stands beside it.
def nestedTree : Files.Tree := ⟨[(["acf-json", "a.json"], .directory), (["acf-json", "b.json"], firstPage)]⟩

theorem ofPath_of_nestedTree :
    nestedTree.isDirectory syncDirectory = .ok true ∧
    (validGroups? nestedTree (syncDirectory.child "b.json")).isSome = true ∧
    ∀ library, (ofPath nestedTree syncDirectory).result ≠ .ok library := by
  have hentries : nestedTree.entries syncDirectory = ["a.json", "b.json"] :=
    Files.entries_eq ["acf-json"] (by decide +kernel) (by decide +kernel) (by decide +kernel)
  have hdirectory : nestedTree.isDirectory syncDirectory = .ok true := by decide +kernel
  refine ⟨hdirectory, by decide +kernel, fun library hlibrary => ?_⟩
  have hname : "a.json" ∈ documentNames nestedTree syncDirectory := by
    rw [documentNames, hentries]
    decide +kernel
  have hpassable := passable_of_ofPath hdirectory hlibrary "a.json" hname
  exact absurd hpassable (by decide +kernel)

end Library

end FieldTemplates
