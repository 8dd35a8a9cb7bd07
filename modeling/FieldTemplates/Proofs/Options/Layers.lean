import FieldTemplates.Proofs.Options.Load
import Mathlib

namespace FieldTemplates

namespace Value

-- Members as pairs, whose names are all texts.
def Pairs.ofTable (t : Table Value) : Pairs := t.map fun m => (.text m.1, m.2)

theorem Pairs.toTable_ofTable (t : Table Value) : (Pairs.ofTable t).toTable = t := by
  rw [Pairs.ofTable, Pairs.toTable, List.map_map]
  exact List.map_id t

theorem Pairs.put_ofTable (t : Table Value) (name : String) (v : Value) :
    (Pairs.ofTable t).put (.text name) v = Pairs.ofTable (t.put name v) := by
  induction t with
  | nil => rfl
  | cons m t ih =>
      obtain ⟨n, w⟩ := m
      by_cases hname : n = name
      · subst hname
        simp [Pairs.ofTable, Pairs.put, Table.put]
      · have hother : (Value.text n).name? ≠ (Value.text name).name? := fun h =>
          hname (Name.text.inj (Option.some.inj h))
        rw [Table.put, beq_eq_false_iff_ne.mpr hname, if_neg Bool.false_ne_true]
        exact (if_neg hother).trans (congrArg _ ih)

theorem Pairs.putAll_ofTable (t u : Table Value) :
    (Pairs.ofTable t).putAll u = Pairs.ofTable (t.merge u) := by
  induction u generalizing t with
  | nil => rfl
  | cons m u ih =>
      rw [Table.merge_cons, ← ih, ← Pairs.put_ofTable]
      rfl

-- The members of an object, and others put among them.
theorem asPairs_object {members : Table Value} (h : members.names.Nodup) :
    (Value.object members).asPairs = .ok (Pairs.ofTable members) := by
  have hmerge := Pairs.putAll_ofTable [] members
  rw [Table.merge_of_new (fun _ _ => List.not_mem_nil) h, List.nil_append] at hmerge
  exact congrArg Except.ok hmerge

end Value

namespace Options

-- What the overrides say of a name: a null says nothing.
def override? (overrides : Table Value) (name : String) : Option Value :=
  (Table.find? overrides name).filter (!·.isNull)

-- The default of an option; what is no option has none.
def default? (name : String) : Option Value := Table.find? ({} : Options).toTable name

def effective? (file overrides : Table Value) (name : String) : Option Value :=
  (override? overrides name).or ((Table.find? file name).or (default? name))

-- Where the members of the file come from.
inductive ReadsAs (files : Files.Tree) : Option String → Table Value → Prop where
  | noFile : ReadsAs files none []
  | emptyPath : ReadsAs files (some "") []
  | file {path : String} {members : Table Value} (hpath : path ≠ "")
      (h : readFile files (Files.Path.ofText path) = .ok members) : ReadsAs files (some path) members

-- The effective values make options that are not refused.
structure Fits (file overrides : Table Value) : Prop where
  indent : ∃ n : Int, effective? file overrides "indent_size" = some (.int n) ∧ 0 ≤ n ∧ n ≤ 16
  given : ∀ name ∈ ["text_domain", "image_size", "gallery_image_size"],
    ∃ v, effective? file overrides name = some v ∧ v.truthy = true

-- Options that have the effective values. What is no option is gathered under `custom`, and comes before
-- the custom member of its name.
structure Follows (file overrides custom : Table Value) (o : Options) : Prop where
  settings : ∀ name ∈ names, name ≠ "custom" →
    Table.find? o.toTable name = effective? file overrides name
  gathered : ∃ members, o.custom = .object members ∧ (Table.names members).Nodup ∧
    ∀ name, Table.find? members name =
      if name ∈ names then Table.find? custom name
      else (effective? file overrides name).or (Table.find? custom name)

-- How two ways of loading compare: the same error, or options that differ in the order of what is
-- gathered.
inductive Alike : Except LoadError Options → Except LoadError Options → Prop where
  | refused (e : LoadError) : Alike (.error e) (.error e)
  | loaded {o p : Options} {members others : Table Value}
      (settings : ∀ name ∈ names, name ≠ "custom" →
        Table.find? o.toTable name = Table.find? p.toTable name)
      (hmembers : o.custom = .object members) (hothers : p.custom = .object others)
      (hperm : members.Perm others) : Alike (.ok o) (.ok p)

theorem mem_names {name : String} : name ∈ names ↔ name = "output_file" ∨ name = "header_title" ∨
    name = "indent_size" ∨ name = "use_tabs" ∨ name = "text_domain" ∨ name = "image_size" ∨
    name = "gallery_image_size" ∨ name = "custom" := by
  simp [names, toTable, Table.names]

-- A known name is found among the members of a table, or has the value it had.
theorem find?_toTable_update (o : Options) (t : Table Value) {name : String} (h : name ∈ names) :
    Table.find? (o.update t).toTable name = (Table.find? t name).or (Table.find? o.toTable name) := by
  have hgiven : ∀ v : Value, some ((Table.find? t name).getD v) = (Table.find? t name).or (some v) := by
    intro v
    cases Table.find? t name <;> rfl
  rcases mem_names.mp h with rfl | rfl | rfl | rfl | rfl | rfl | rfl | rfl <;> exact hgiven _

theorem find?_toTable_custom (o : Options) (v : Value) {name : String} (h : name ≠ "custom") :
    Table.find? ({ o with custom := v } : Options).toTable name = Table.find? o.toTable name := by
  simp only [toTable, Table.find?_cons, h, ite_false]

-- The layer of defaults says nothing else than the options that nobody set.
theorem defaults_agree (name : String) :
    (Table.find? defaults name).or (default? name) = default? name := by
  by_cases h : name ∈ Table.names defaults
  · simp only [defaults, Table.names, List.map_cons, List.map_nil, List.mem_cons, List.not_mem_nil,
      or_false] at h
    rcases h with rfl | rfl | rfl | rfl | rfl <;> rfl
  · rw [Table.find?_eq_none h, Option.none_or]

theorem default?_eq_none {name : String} (h : name ∉ names) : default? name = none :=
  Table.find?_eq_none h

section

variable {file overrides : Table Value}

theorem find?_nonnull (h : (Table.names overrides).Nodup) (name : String) :
    Table.find? (overrides.filter (!·.2.isNull)) name = override? overrides name := by
  have hkept : (Table.names (overrides.filter (!·.2.isNull))).Nodup :=
    h.sublist (List.filter_sublist.map Prod.fst)
  refine Option.ext fun v => ?_
  rw [Table.find?_eq_some_iff hkept, List.mem_filter, override?, Option.filter_eq_some_iff,
    Table.find?_eq_some_iff h]

theorem nodup_layered (file overrides : Table Value) : (Table.names (layered file overrides)).Nodup :=
  Table.nodup_merge (Table.nodup_merge (by decide) file) _

theorem find?_layered (hfile : (Table.names file).Nodup) (hoverrides : (Table.names overrides).Nodup)
    (name : String) : (Table.find? (layered file overrides) name).or (default? name) =
      effective? file overrides name := by
  have hkept : (Table.names (overrides.filter (!·.2.isNull))).Nodup :=
    hoverrides.sublist (List.filter_sublist.map Prod.fst)
  rw [layered, Table.find?_merge _ hkept, Table.find?_merge _ hfile, find?_nonnull hoverrides,
    Option.or_assoc, Option.or_assoc, defaults_agree, effective?]

-- A custom table takes in what is no option.
theorem ofLayers_eq {t custom : Table Value} (ht : Table.find? t "custom" = some (.object custom) ∨
      Table.find? t "custom" = none ∧ custom = []) (hcustom : (Table.names custom).Nodup) :
    ofLayers t = .ok { ({} : Options).update (t.filter (names.contains ·.1)) with
      custom := .object (custom.merge (t.filter (!names.contains ·.1))) } := by
  have hknown : (Table.find? (t.filter (names.contains ·.1)) "custom").getD (.object []) =
      .object custom := by
    have hname : names.contains "custom" = true := by decide
    rw [Table.find?_filter t names.contains, if_pos hname]
    rcases ht with ht | ⟨ht, rfl⟩ <;> rw [ht] <;> rfl
  simp only [ofLayers, hknown]
  cases hothers : t.filter (!names.contains ·.1) with
  | nil => rfl
  | cons m others =>
      simp only [List.isEmpty_cons, Bool.false_eq_true, if_false, Value.asPairs_object hcustom]
      have hall : ((Value.Pairs.ofTable custom).putAll (m :: others)).toTable =
          custom.merge (m :: others) := by
        rw [Value.Pairs.putAll_ofTable, Value.Pairs.toTable_ofTable]
      rw [← hall]
      rfl

variable {custom : Table Value} (hfile : (Value.object file).Distinct)
  (hoverrides : (Value.object overrides).Distinct)
  (hcustom : effective? file overrides "custom" = some (.object custom))
include hfile hoverrides hcustom

theorem distinct_custom : (Value.object custom).Distinct := by
  rw [effective?, Option.or_eq_some_iff, Option.or_eq_some_iff] at hcustom
  rcases hcustom with hgiven | ⟨-, hread | ⟨-, hnone⟩⟩
  · exact hoverrides.member (Table.mem_of_find? (Option.filter_eq_some_iff.mp hgiven).1)
  · exact hfile.member (Table.mem_of_find? hread)
  · cases hnone
    exact .object List.nodup_nil fun m hm => absurd hm List.not_mem_nil

-- Loading comes down to the check of the options that have the effective values.
theorem resolve_eq : ∃ o, resolve file overrides = checked o ∧ Follows file overrides custom o := by
  have hfound := find?_layered hfile.names hoverrides.names
  have hnodup := nodup_layered file overrides
  obtain ⟨t, ht⟩ : ∃ t, t = layered file overrides := ⟨_, rfl⟩
  rw [← ht] at hfound hnodup
  have hlayer : Table.find? t "custom" = some (.object custom) ∨
      Table.find? t "custom" = none ∧ custom = [] := by
    have hdefault : default? "custom" = some (.object []) := rfl
    have hc := hfound "custom"
    rw [hcustom, hdefault, Option.or_eq_some_iff] at hc
    refine hc.imp_right fun ⟨hnone, hempty⟩ => ⟨hnone, ?_⟩
    exact (Value.object.inj (Option.some.inj hempty)).symm
  have hnames := (distinct_custom hfile hoverrides hcustom).names
  refine ⟨_, by rw [resolve, ← ht, ofLayers_eq hlayer hnames]; rfl, ?_, ?_⟩
  · intro name hname hother
    have hknown : Table.find? (t.filter (names.contains ·.1)) name = Table.find? t name := by
      rw [Table.find?_filter t names.contains, if_pos (by simpa using hname)]
    rw [find?_toTable_custom _ _ hother, find?_toTable_update _ _ hname, hknown]
    exact hfound name
  · have hkept : (Table.names (t.filter (!names.contains ·.1))).Nodup :=
      hnodup.sublist (List.filter_sublist.map Prod.fst)
    refine ⟨_, rfl, Table.nodup_merge hnames _, fun name => ?_⟩
    rw [Table.find?_merge _ hkept, Table.find?_filter t (!names.contains ·)]
    by_cases hname : name ∈ names
    · rw [if_neg (by simpa using hname), if_pos hname, Option.none_or]
    · rw [if_pos (by simpa using hname), if_neg hname, ← hfound name, default?_eq_none hname,
        Option.or_none]

omit hfile hoverrides hcustom

theorem Follows.fits_iff {o : Options} (h : Follows file overrides custom o) :
    o.problems = [] ↔ Fits file overrides := by
  have hindent : effective? file overrides "indent_size" = some o.indentSize :=
    (h.settings "indent_size" (by decide) (by decide)).symm
  have hdomain : effective? file overrides "text_domain" = some o.textDomain :=
    (h.settings "text_domain" (by decide) (by decide)).symm
  have himage : effective? file overrides "image_size" = some o.imageSize :=
    (h.settings "image_size" (by decide) (by decide)).symm
  have hgallery : effective? file overrides "gallery_image_size" = some o.galleryImageSize :=
    (h.settings "gallery_image_size" (by decide) (by decide)).symm
  rw [problems_eq_nil_iff]
  constructor
  · rintro ⟨⟨n, hn, hrange⟩, hsays⟩
    refine ⟨⟨n, by rw [hindent, hn], hrange⟩, ?_⟩
    simpa [hdomain, himage, hgallery] using hsays
  · rintro ⟨⟨n, hn, hrange⟩, hgiven⟩
    refine ⟨⟨n, Option.some.inj (hindent.symm.trans hn), hrange⟩, ?_⟩
    simpa [hdomain, himage, hgallery] using hgiven

theorem Follows.alike {file' overrides' : Table Value} {o p : Options}
    (ho : Follows file overrides custom o) (hp : Follows file' overrides' custom p)
    (heffective : ∀ name, effective? file' overrides' name = effective? file overrides name) :
    Alike (checked o) (checked p) := by
  have hsettings : ∀ name ∈ names, name ≠ "custom" →
      Table.find? o.toTable name = Table.find? p.toTable name := by
    intro name hname hother
    rw [ho.settings name hname hother, hp.settings name hname hother, heffective]
  obtain ⟨members, hmembers, hnodup, hfound⟩ := ho.gathered
  obtain ⟨others, hothers, hnodup', hfound'⟩ := hp.gathered
  have hperm : members.Perm others := by
    refine Table.perm_of_find? hnodup hnodup' fun name => ?_
    rw [hfound, hfound', heffective]
  have hproblems : p.problems = o.problems := by
    have hindent := Option.some.inj (hsettings "indent_size" (by decide) (by decide))
    have hdomain := Option.some.inj (hsettings "text_domain" (by decide) (by decide))
    have himage := Option.some.inj (hsettings "image_size" (by decide) (by decide))
    have hgallery := Option.some.inj (hsettings "gallery_image_size" (by decide) (by decide))
    rw [problems, problems, hindent, hdomain, himage, hgallery]
  rw [checked, checked, hproblems]
  cases o.problems with
  | nil => exact .loaded hsettings hmembers hothers hperm
  | cons first ps => exact .refused _

end

theorem ReadsAs.distinct {files : Files.Tree} {path : Option String} {file : Table Value}
    (h : ReadsAs files path file) : (Value.object file).Distinct := by
  cases h with
  | noFile | emptyPath => exact .object List.nodup_nil fun m hm => absurd hm List.not_mem_nil
  | file _ h =>
      obtain ⟨cs, hobject⟩ := object_of_readFile h
      exact Json.distinct_decode hobject

theorem ReadsAs.load_eq {files : Files.Tree} {path : Option String} {file : Table Value}
    (h : ReadsAs files path file) (overrides : Table Value) :
    load files path (.object overrides) = resolve file overrides := by
  cases h with
  | noFile | emptyPath => rfl
  | file hpath h =>
      rw [load, fileOf_some hpath, h]
      rfl

theorem effective?_perm {file file' overrides overrides' : Table Value} (hfile : (Table.names file).Nodup)
    (hoverrides : (Table.names overrides).Nodup) (hf : file.Perm file') (ho : overrides.Perm overrides')
    (name : String) : effective? file' overrides' name = effective? file overrides name := by
  rw [effective?, effective?, override?, override?, Table.find?_perm hf hfile,
    Table.find?_perm ho hoverrides]

-- Options are refused exactly where the effective values do not fit, and are not hindered otherwise.
-- Where they are loaded, each of them has its effective value, and what is no option is gathered under
-- `custom`. The order of the members does not matter, neither in the file nor among the overrides.
theorem loaded_by_precedence {files : Files.Tree} {path : Option String}
    {file overrides custom : Table Value} (hfile : ReadsAs files path file)
    (hoverrides : (Value.object overrides).Distinct)
    (hcustom : effective? file overrides "custom" = some (.object custom)) :
    ((∃ e, load files path (.object overrides) = .error e ∧ e.isRefusal = true) ↔
      ¬ Fits file overrides) ∧
    (Fits file overrides → ∃ o, load files path (.object overrides) = .ok o) ∧
    (∀ o, load files path (.object overrides) = .ok o → Follows file overrides custom o) ∧
    ∀ files' path' file' overrides', ReadsAs files' path' file' → file.Perm file' →
      overrides.Perm overrides' →
      Alike (load files path (.object overrides)) (load files' path' (.object overrides')) := by
  obtain ⟨o, hresolve, hfollows⟩ := resolve_eq hfile.distinct hoverrides hcustom
  rw [hfile.load_eq, hresolve]
  have hloads : Fits file overrides → checked o = .ok o := by
    intro hfits
    rw [checked, hfollows.fits_iff.mpr hfits]
  refine ⟨⟨?_, ?_⟩, fun hfits => ⟨o, hloads hfits⟩, ?_, ?_⟩
  · rintro ⟨e, he, -⟩ hfits
    rw [hloads hfits] at he
    cases he
  · intro hunfit
    cases hproblems : o.problems with
    | nil => exact absurd (hfollows.fits_iff.mp hproblems) hunfit
    | cons first ps => exact ⟨.refused (first :: ps), by rw [checked, hproblems], rfl⟩
  · intro p hp
    rw [(checked_ok hp).1]
    exact hfollows
  · intro files' path' file' overrides' hfile' hf ho
    have heffective := effective?_perm hfile.distinct.names hoverrides.names hf ho
    have hcustom' : effective? file' overrides' "custom" = some (.object custom) := by
      rw [heffective, hcustom]
    obtain ⟨p, hresolve', hfollows'⟩ :=
      resolve_eq hfile'.distinct (hoverrides.perm ho.symm) hcustom'
    rw [hfile'.load_eq, hresolve']
    exact hfollows.alike hfollows' heffective

-- A file that sets an option, and overrides that do not set it but a member of their own and of the file.
def styledText : String :=
  "\x7b\"indent_size\": 2, \"palette\": \"warm\", \"custom\": \x7b\"accent\": null\x7d\x7d"

def styledTree : Files.Tree :=
  ⟨[(["options.json"], .file (styledText.toList.map fun c => c.toNat.toUInt8))]⟩

def styledMembers : Table Value :=
  [("indent_size", .int 2), ("palette", .text "warm"), ("custom", .object [("accent", .null)])]

def styledOverrides : Table Value :=
  [("indent_size", .null), ("image_size", .text "large"), ("palette", .text "cold")]

theorem loaded_by_precedence_of_styledTree :
    ReadsAs styledTree (some "options.json") styledMembers ∧
    (Value.object styledOverrides).Distinct ∧
    effective? styledMembers styledOverrides "custom" = some (.object [("accent", .null)]) ∧
    ∃ o members, load styledTree (some "options.json") (.object styledOverrides) = .ok o ∧
      Table.find? o.toTable "indent_size" = some (.int 2) ∧
      Table.find? o.toTable "image_size" = some (.text "large") ∧
      o.custom = .object members ∧ Table.find? members "palette" = some (.text "cold") ∧
      Table.find? members "accent" = some .null := by
  have hread : ReadsAs styledTree (some "options.json") styledMembers := by
    have hfile : OptionFile styledTree (Files.Path.ofText "options.json")
        (.file (styledText.toList.map fun c => c.toNat.toUInt8)) :=
      ⟨by decide +kernel, by decide +kernel, nofun⟩
    have htext : Text.Utf8.decode (styledText.toList.map fun c => c.toNat.toUInt8) =
        .ok styledText.toList := by cbv
    have hmembers : Json.decode (Text.plainNewlines styledText.toList) = .ok (.object styledMembers) := by
      cbv
    refine .file (by decide) ?_
    rw [hfile.readFile_eq, contentOf, htext]
    simp only [hmembers]
  have hdistinct : (Value.object styledOverrides).Distinct := by
    refine .object (by decide) fun m hm => ?_
    rw [styledOverrides, List.mem_cons, List.mem_cons, List.mem_singleton] at hm
    rcases hm with rfl | rfl | rfl <;> constructor
  have hfits : Fits styledMembers styledOverrides := by
    refine ⟨⟨2, rfl, by decide, by decide⟩, fun name hname => ?_⟩
    rw [List.mem_cons, List.mem_cons, List.mem_singleton] at hname
    rcases hname with rfl | rfl | rfl <;> exact ⟨_, rfl, by decide⟩
  obtain ⟨-, hloads, hfollows, -⟩ := loaded_by_precedence hread hdistinct rfl
  obtain ⟨o, ho⟩ := hloads hfits
  obtain ⟨hsettings, members, hmembers, -, hfound⟩ := hfollows o ho
  refine ⟨hread, hdistinct, rfl, o, members, ho, ?_, ?_, hmembers, ?_, ?_⟩
  · exact hsettings "indent_size" (by decide) (by decide)
  · exact hsettings "image_size" (by decide) (by decide)
  · exact hfound "palette"
  · exact hfound "accent"

end Options

end FieldTemplates
