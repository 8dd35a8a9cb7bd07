import FieldTemplates.Options.Load
import FieldTemplates.Proofs.Json.Decode
import Mathlib.Data.List.Basic

namespace FieldTemplates.Options

-- A file that options are read from.
structure OptionFile (files : Files.Tree) (path : Files.Path) (node : Files.Node) : Prop where
  found : files.find? path = .ok (some node)
  json : Text.lower path.suffix = ".json"
  file : node ≠ .directory

theorem OptionFile.readFile_eq {files : Files.Tree} {path : Files.Path} {node : Files.Node}
    (h : OptionFile files path node) : readFile files path =
      match Text.Utf8.decode (contentOf node) with
      | .error e => .error (.fileUndecodable e)
      | .ok cs =>
        match Json.decode (Text.plainNewlines cs) with
        | .error (.refused e) => .error (.fileInvalid path.text e)
        | .error (.beyond l) => .error (.fileBeyond l)
        | .ok (.object members) => .ok members
        | .ok _ => .error (.fileNoObject path.text) := by
  obtain ⟨hfound, hjson, hfile⟩ := h
  rw [readFile, hfound]
  cases node with
  | directory => exact absurd rfl hfile
  | _ => exact if_neg (not_not.mpr hjson)

-- What is no such file is refused, unless its name is too long.
theorem readFile_cases (files : Files.Tree) (path : Files.Path) :
    (∃ e, files.find? path = .error e ∧ readFile files path = .error (.fileSystem path.text e)) ∨
      (∃ e, readFile files path = .error e ∧ e.isRefusal = true) ∨
      ∃ node, OptionFile files path node := by
  cases hfound : files.find? path with
  | error e => exact .inl ⟨e, rfl, by rw [readFile, hfound]⟩
  | ok found =>
      refine .inr ?_
      cases found with
      | none => exact .inl ⟨.fileAbsent path.text, by rw [readFile, hfound], rfl⟩
      | some node =>
          by_cases hjson : Text.lower path.suffix = ".json"
          · by_cases hfile : node = .directory
            · subst hfile
              refine .inl ⟨.fileIsDirectory path.text, ?_, rfl⟩
              rw [readFile, hfound]
              exact if_neg (not_not.mpr hjson)
            · exact .inr ⟨node, hfound, hjson, hfile⟩
          · refine .inl ⟨.fileNoJson path.text, ?_, rfl⟩
            rw [readFile, hfound]
            exact if_pos hjson

theorem object_of_readFile {files : Files.Tree} {path : Files.Path} {members : Table Value}
    (h : readFile files path = .ok members) : ∃ cs, Json.decode cs = .ok (.object members) := by
  rcases readFile_cases files path with ⟨e, -, he⟩ | ⟨e, he, -⟩ | ⟨node, hfile⟩
  · rw [he] at h
    cases h
  · rw [he] at h
    cases h
  · rw [hfile.readFile_eq] at h
    split at h
    · cases h
    · split at h
      · cases h
      · cases h
      · rename_i hobject
        obtain rfl := Except.ok.inj h
        exact ⟨_, hobject⟩
      · cases h

theorem fileOf_some {files : Files.Tree} {text : String} (h : text ≠ "") :
    fileOf files (some text) = readFile files (Files.Path.ofText text) := by
  unfold fileOf
  split
  · contradiction
  · rename_i hempty
    exact absurd (Option.some.inj hempty) h
  · rename_i hpath
    rw [Option.some.inj hpath]

theorem checked_ok {o p : Options} (h : checked o = .ok p) : p = o ∧ p.problems = [] := by
  simp only [checked] at h
  split at h
  · rename_i hnone
    obtain rfl := Except.ok.inj h
    exact ⟨rfl, hnone⟩
  · cases h

-- Loading ends with the check, wherever the options come from.
theorem problems_of_load {files : Files.Tree} {file : Option String} {overrides : Value} {o : Options}
    (h : load files file overrides = .ok o) : o.problems = [] := by
  obtain ⟨read, -, hread⟩ := ok_of_bind h
  obtain ⟨given, -, hgiven⟩ := ok_of_bind hread
  obtain ⟨p, -, hchecked⟩ := ok_of_bind hgiven
  exact (checked_ok hchecked).2

theorem indentProblem?_eq_none_iff {v : Value} :
    indentProblem? v = none ↔ ∃ n : Int, v = .int n ∧ 0 ≤ n ∧ n ≤ 16 := by
  constructor
  · intro h
    cases v with
    | int n =>
        simp only [indentProblem?] at h
        split_ifs at h with hrange
        exact ⟨n, rfl, hrange⟩
    | _ => cases h
  · rintro ⟨n, rfl, hrange⟩
    exact if_pos hrange

theorem emptyProblem?_eq_none_iff {name : String} {v : Value} :
    emptyProblem? name v = none ↔ v.truthy = true := by
  rw [emptyProblem?]
  split_ifs with h <;> simp [h]

theorem problems_eq_nil_iff {o : Options} :
    o.problems = [] ↔ (∃ n : Int, o.indentSize = .int n ∧ 0 ≤ n ∧ n ≤ 16) ∧
      o.textDomain.truthy = true ∧ o.imageSize.truthy = true ∧ o.galleryImageSize.truthy = true := by
  simp only [problems, List.append_eq_nil_iff, Option.toList_eq_nil_iff, indentProblem?_eq_none_iff,
    emptyProblem?_eq_none_iff, and_assoc]

theorem indentUnit_of_valid {o : Options} (h : o.problems = []) :
    ∃ unit, o.indentUnit = .ok unit ∧ unit.length ≤ 16 := by
  obtain ⟨⟨n, hsize, hlow, hhigh⟩, -⟩ := problems_eq_nil_iff.mp h
  simp only [indentUnit]
  split
  · exact ⟨['\t'], rfl, by decide⟩
  · have hfits : Text.repeatError? 1 n = none := by
      have hword : Text.maxWord = 0x7FFFFFFFFFFFFFFF := rfl
      have hlength : Text.maxLength = 0x1FFFFFFFF := rfl
      simp only [Text.repeatError?]
      split_ifs <;> first | rfl | omega
    have hunit : Text.repeated? n [' '] = .ok (List.replicate n.toNat ' ') := by
      simp only [Text.repeated?, List.length_singleton, hfits, Text.repeated,
        List.flatten_replicate_singleton]
    rw [hsize]
    refine ⟨List.replicate n.toNat ' ', ?_, ?_⟩
    · simp only [hunit]
      rfl
    · rw [List.length_replicate]
      omega

end FieldTemplates.Options
