import FieldTemplates.Proofs.Options.Layers

namespace FieldTemplates

namespace Value

-- A value that counts as a name and what goes by it.
def IsPair (v : Value) : Prop := ∃ name w, v.parts? = some [name, w] ∧ name.name?.isSome = true

inductive HoldsPairs : Value → Prop where
  | object (members : Table Value) : HoldsPairs (.object members)
  | parts {v : Value} {vs : List Value} (hparts : v.parts? = some vs) (hpairs : ∀ p ∈ vs, p.IsPair) :
      HoldsPairs v

theorem putEach_ok_iff (ps : Pairs) (index : Nat) (vs : List Value) :
    (∃ qs, putEach ps index vs = .ok qs) ↔ ∀ v ∈ vs, v.IsPair := by
  induction vs generalizing ps index with
  | nil => exact ⟨fun _ v hv => absurd hv List.not_mem_nil, fun _ => ⟨ps, rfl⟩⟩
  | cons v vs ih =>
      rw [List.forall_mem_cons]
      by_cases hpair : v.IsPair
      · obtain ⟨name, w, hparts, hname⟩ := hpair
        have hkept : name.name?.isNone = false := by simpa using hname
        simp only [putEach, hparts, hkept, Bool.false_eq_true, if_false, ih]
        exact ⟨fun h => ⟨⟨name, w, hparts, hname⟩, h⟩, And.right⟩
      · refine ⟨fun ⟨qs, hqs⟩ => ?_, fun h => absurd h.1 hpair⟩
        simp only [putEach] at hqs
        split at hqs
        · cases hqs
        · rename_i name w hparts
          split_ifs at hqs with hname
          rw [← Option.not_isSome, Bool.not_eq_true', Bool.not_eq_false] at hname
          exact absurd ⟨name, w, hparts, hname⟩ hpair
        · cases hqs

theorem asPairs_ok_iff (v : Value) : (∃ ps, v.asPairs = .ok ps) ↔ v.HoldsPairs := by
  by_cases hobject : ∃ members, v = .object members
  · obtain ⟨members, rfl⟩ := hobject
    exact ⟨fun _ => .object members, fun _ => ⟨_, rfl⟩⟩
  · have hpairs : ∀ ps, v.asPairs = .ok ps ↔ ∃ vs, v.parts? = some vs ∧ putEach [] 0 vs = .ok ps := by
      intro ps
      cases v with
      | object members => exact absurd ⟨members, rfl⟩ hobject
      | list items => exact ⟨fun h => ⟨items, rfl, h⟩, fun ⟨_, rfl, h⟩ => h⟩
      | text s => exact ⟨fun h => ⟨letters s, rfl, h⟩, fun ⟨_, rfl, h⟩ => h⟩
      | _ => exact ⟨nofun, nofun⟩
    constructor
    · rintro ⟨ps, hps⟩
      obtain ⟨vs, hparts, hread⟩ := (hpairs ps).mp hps
      exact .parts hparts ((putEach_ok_iff [] 0 vs).mp ⟨ps, hread⟩)
    · intro h
      cases h with
      | object members => exact absurd ⟨members, rfl⟩ hobject
      | parts hparts hall =>
          obtain ⟨ps, hread⟩ := (putEach_ok_iff [] 0 _).mpr hall
          exact ⟨ps, (hpairs ps).mpr ⟨_, hparts, hread⟩⟩

end Value

namespace Options

inductive Unreadable (files : Files.Tree) (path : Files.Path) : Prop where
  | name {e : Files.SystemError} (h : files.find? path = .error e)
  | bytes {node : Files.Node} {e : Text.Utf8.Error} (hfile : OptionFile files path node)
      (h : Text.Utf8.decode (contentOf node) = .error e)
  | limit {node : Files.Node} {cs : List Char} {l : Json.Limit} (hfile : OptionFile files path node)
      (htext : Text.Utf8.decode (contentOf node) = .ok cs)
      (h : Json.decode (Text.plainNewlines cs) = .error (.beyond l))

-- Something is to be gathered, and the custom value cannot take it in.
structure Unmergeable (file overrides : Table Value) : Prop where
  others : ∃ name, name ∉ names ∧ ∃ v, effective? file overrides name = some v
  custom : ∃ v, effective? file overrides "custom" = some v ∧ ¬ v.HoldsPairs

theorem unforeseen_readFile_iff {files : Files.Tree} {path : Files.Path} :
    (∃ e, readFile files path = .error e ∧ e.isRefusal = false) ↔ Unreadable files path := by
  constructor
  · rintro ⟨e, he, hunforeseen⟩
    rcases readFile_cases files path with ⟨_, hname, -⟩ | ⟨e', he', hrefusal⟩ | ⟨node, hfile⟩
    · exact .name hname
    · rw [he] at he'
      rw [Except.error.inj he', hrefusal] at hunforeseen
      cases hunforeseen
    · rw [hfile.readFile_eq] at he
      split at he
      · rename_i hbytes
        exact .bytes hfile hbytes
      · rename_i htext
        split at he
        · cases he
          cases hunforeseen
        · rename_i hlimit
          exact .limit hfile htext hlimit
        · cases he
        · cases he
          cases hunforeseen
  · intro h
    cases h with
    | name h => exact ⟨_, by rw [readFile, h], rfl⟩
    | bytes hfile h => exact ⟨_, by rw [hfile.readFile_eq, h], rfl⟩
    | @limit node cs l hfile htext h =>
        exact ⟨.fileBeyond l, by simp only [hfile.readFile_eq, htext, h], rfl⟩

theorem unforeseen_ofLayers_iff {t : Table Value} :
    (∃ e, ofLayers t = .error e ∧ e.isRefusal = false) ↔ t.filter (!names.contains ·.1) ≠ [] ∧
      ¬ ((Table.find? t "custom").getD (.object [])).HoldsPairs := by
  have hname : names.contains "custom" = true := by decide
  have hcustom : Table.find? (t.filter (names.contains ·.1)) "custom" = Table.find? t "custom" := by
    rw [Table.find?_filter t names.contains, if_pos hname]
  simp only [ofLayers, hcustom, ← Value.asPairs_ok_iff]
  cases hothers : t.filter (!names.contains ·.1) with
  | nil =>
      refine ⟨?_, fun h => absurd rfl h.1⟩
      rintro ⟨e, he, -⟩
      cases he
  | cons m others =>
      simp only [List.isEmpty_cons, Bool.false_eq_true, if_false]
      cases hpairs : ((Table.find? t "custom").getD (.object [])).asPairs with
      | error e =>
          refine ⟨fun _ => ⟨List.cons_ne_nil m others, ?_⟩, fun _ => ⟨.custom e, rfl, rfl⟩⟩
          rintro ⟨ps, hps⟩
          cases hps
      | ok ps =>
          refine ⟨?_, fun h => absurd ⟨ps, rfl⟩ h.2⟩
          rintro ⟨e, he, -⟩
          cases he

-- The check refuses only.
theorem unforeseen_resolve_iff {file overrides : Table Value} :
    (∃ e, resolve file overrides = .error e ∧ e.isRefusal = false) ↔
      ∃ e, ofLayers (layered file overrides) = .error e ∧ e.isRefusal = false := by
  rw [resolve]
  cases hlayers : ofLayers (layered file overrides) with
  | error e => exact Iff.rfl
  | ok o =>
      constructor
      · rintro ⟨e, he, hunforeseen⟩
        have hchecked : checked o = .error e := he
        simp only [checked] at hchecked
        split at hchecked
        · cases hchecked
        · cases hchecked
          cases hunforeseen
      · rintro ⟨e, he, -⟩
        cases he

theorem unmergeable_iff {file overrides : Table Value} (hfile : (Value.object file).Distinct)
    (hoverrides : (Value.object overrides).Distinct) :
    Unmergeable file overrides ↔ (layered file overrides).filter (!names.contains ·.1) ≠ [] ∧
      ¬ ((Table.find? (layered file overrides) "custom").getD (.object [])).HoldsPairs := by
  have hfound := find?_layered hfile.names hoverrides.names
  have hcustom : effective? file overrides "custom" =
      some ((Table.find? (layered file overrides) "custom").getD (.object [])) := by
    have hdefault : default? "custom" = some (.object []) := rfl
    rw [← hfound, hdefault]
    cases Table.find? (layered file overrides) "custom" <;> rfl
  have hothers : (∃ name, name ∉ names ∧ ∃ v, effective? file overrides name = some v) ↔
      (layered file overrides).filter (!names.contains ·.1) ≠ [] := by
    constructor
    · rintro ⟨name, hname, v, hv⟩
      rw [← hfound, default?_eq_none hname, Option.or_none] at hv
      exact List.ne_nil_of_mem
        (List.mem_filter.mpr ⟨Table.mem_of_find? hv, by simpa using hname⟩)
    · intro hne
      obtain ⟨m, hm⟩ := List.exists_mem_of_ne_nil _ hne
      obtain ⟨hmem, hname⟩ := List.mem_filter.mp hm
      refine ⟨m.1, by simpa using hname, m.2, ?_⟩
      rw [← hfound, (Table.find?_eq_some_iff (nodup_layered file overrides)).mpr hmem, Option.some_or]
  constructor
  · rintro ⟨hsome, v, hv, hpairs⟩
    rw [hcustom] at hv
    rw [← Option.some.inj hv] at hpairs
    exact ⟨hothers.mp hsome, hpairs⟩
  · rintro ⟨hsome, hpairs⟩
    exact ⟨hothers.mpr hsome, _, hcustom, hpairs⟩

theorem load_of_unreadable {files : Files.Tree} {text : String} (htext : text ≠ "")
    (h : Unreadable files (Files.Path.ofText text)) (overrides : Table Value) :
    ∃ e, load files (some text) (.object overrides) = .error e ∧ e.isRefusal = false := by
  obtain ⟨e, he, hunforeseen⟩ := unforeseen_readFile_iff.mpr h
  refine ⟨e, ?_, hunforeseen⟩
  rw [load, fileOf_some htext, he]
  rfl

-- Loading ends with options that pass the check, or with a refusal. It ends otherwise exactly where the
-- file cannot be read, or the custom value cannot take in what is no option.
theorem loaded_valid_or_refused (files : Files.Tree) (path : Option String) {overrides : Table Value}
    (hoverrides : (Value.object overrides).Distinct) :
    (∀ o, load files path (.object overrides) = .ok o → o.problems = []) ∧
    ((∃ e, load files path (.object overrides) = .error e ∧ e.isRefusal = false) ↔
      (∃ text, path = some text ∧ text ≠ "" ∧ Unreadable files (Files.Path.ofText text)) ∨
        ∃ file, ReadsAs files path file ∧ Unmergeable file overrides) := by
  refine ⟨fun o ho => problems_of_load ho, ?_⟩
  have hresolve : ∀ {file}, ReadsAs files path file →
      ((∃ e, load files path (.object overrides) = .error e ∧ e.isRefusal = false) ↔
        Unmergeable file overrides) := by
    intro file hfile
    rw [hfile.load_eq, unforeseen_resolve_iff, unforeseen_ofLayers_iff,
      unmergeable_iff hfile.distinct hoverrides]
  constructor
  · intro h
    cases path with
    | none => exact .inr ⟨[], .noFile, (hresolve .noFile).mp h⟩
    | some text =>
        by_cases htext : text = ""
        · subst htext
          exact .inr ⟨[], .emptyPath, (hresolve .emptyPath).mp h⟩
        · cases hread : readFile files (Files.Path.ofText text) with
          | error e =>
              obtain ⟨e', he', hunforeseen⟩ := h
              rw [load, fileOf_some htext, hread] at he'
              obtain rfl := Except.error.inj he'
              exact .inl ⟨text, rfl, htext, unforeseen_readFile_iff.mp ⟨e, hread, hunforeseen⟩⟩
          | ok file => exact .inr ⟨file, .file htext hread, (hresolve (.file htext hread)).mp h⟩
  · rintro (⟨text, rfl, htext, hunreadable⟩ | ⟨file, hfile, hunmergeable⟩)
    · exact load_of_unreadable htext hunreadable overrides
    · exact (hresolve hfile).mpr hunmergeable

-- A number that stands where custom members belong, and a member that would join them.
def unmergeableOverrides : Table Value := [("custom", .int 5), ("palette", .text "warm")]

theorem loaded_valid_or_refused_of_unmergeableOverrides :
    (Value.object unmergeableOverrides).Distinct ∧
    Unmergeable [] unmergeableOverrides ∧
    ∃ e, load ⟨[]⟩ none (.object unmergeableOverrides) = .error e ∧ e.isRefusal = false := by
  have hdistinct : (Value.object unmergeableOverrides).Distinct := by
    refine .object (by decide) fun m hm => ?_
    rcases List.mem_cons.mp hm with rfl | hm
    · exact .int 5
    · rw [List.mem_singleton.mp hm]
      exact .text "warm"
  have hpairs : ¬ (Value.int 5).HoldsPairs := by
    rintro (_ | ⟨hparts, -⟩)
    cases hparts
  have hunmergeable : Unmergeable [] unmergeableOverrides :=
    ⟨⟨"palette", by decide, .text "warm", rfl⟩, .int 5, rfl, hpairs⟩
  exact ⟨hdistinct, hunmergeable, (loaded_valid_or_refused ⟨[]⟩ none hdistinct).2.mpr
    (.inr ⟨[], .noFile, hunmergeable⟩)⟩

-- A byte that starts no character is not refused like other content that is no document.
theorem load_of_undecodableFile :
    ∃ e, load ⟨[(["options.json"], .file [0xFF])]⟩ (some "options.json") (.object []) = .error e ∧
      e.isRefusal = false := by
  have hfile : OptionFile ⟨[(["options.json"], .file [0xFF])]⟩ (Files.Path.ofText "options.json")
      (.file [0xFF]) := ⟨by decide +kernel, by decide +kernel, nofun⟩
  have hbytes : ∃ e, Text.Utf8.decode [0xFF] = .error e := by
    rw [Text.Utf8.decode, Text.Utf8.decodeFrom]
    exact ⟨_, rfl⟩
  obtain ⟨e, he⟩ := hbytes
  exact load_of_unreadable (by decide) (.bytes hfile he) []

end Options

end FieldTemplates
