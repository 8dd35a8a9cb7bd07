import FieldTemplates.Proofs.Document.Pages
import FieldTemplates.Proofs.Snippet.Reading

namespace FieldTemplates

namespace Php

theorem harmless_of_word {cs : List Char} (h : cs.all (fun c => isWordChar c || c == '-') = true) :
    Harmless cs := by
  have hne : ∀ d, isWordChar d = false → d ≠ '-' → d ∉ cs := by
    intro d hword hdash hmem
    have hd := List.all_eq_true.mp h d hmem
    rw [hword, Bool.false_or, beq_iff_eq] at hd
    exact hdash hd
  refine harmless_of_notMem (fun c hc => ?_) (hne '*' (by decide) (by decide))
    (hne '?' (by decide) (by decide))
  cases hbreak : isBreak c with
  | false => rfl
  | true =>
      simp only [isBreak, Bool.or_eq_true, beq_iff_eq] at hbreak
      rcases hbreak with rfl | rfl
      · exact absurd hc (hne '\n' (by decide) (by decide))
      · exact absurd hc (hne '\r' (by decide) (by decide))

end Php

-- What is minted is printed as it is.
theorem Key.harmless_mint {source : Source} (hs : Random source) {kind : String}
    (hkind : kind.toList.all Php.isWordChar = true) (count : Nat) :
    Php.Harmless (mint source kind count).toList := by
  have hhex : Text.hexAlphabet.all Php.isWordChar = true := by decide
  refine Php.harmless_of_word (List.all_eq_true.mpr fun c hc => ?_)
  rw [toList_mint] at hc
  simp only [List.mem_append, List.mem_cons] at hc
  rw [Bool.or_eq_true]
  rcases hc with hc | rfl | hc | rfl | hc
  · exact .inl (List.all_eq_true.mp hkind c hc)
  · exact .inl (by decide)
  · exact .inl (List.all_eq_true.mp hhex c (mem_token hs hc))
  · exact .inl (by decide)
  · rcases Text.mem_toString_int hc with rfl | hdigit
    · exact .inr (by decide)
    · exact .inl (by simp [Php.isWordChar, Char.isAlphanum, hdigit])

namespace Document

open Php (Harmless Tells Token gist ink lex opening remarks scan)
open Snippet (Placed Setting Style)
open Text (ended)

theorem keys_sublist_places (gs : List Group) :
    (gs.map Group.key).Sublist ((gs.flatMap Group.places).map Key.Place.key) := by
  induction gs with
  | nil => exact List.nil_sublist _
  | cons g gs ih =>
      rw [List.flatMap_cons, List.map_append]
      exact List.Sublist.cons_cons g.key (ih.trans (List.sublist_append_right _ _))

theorem givenKeys_new {source : Key.Source} (hs : Key.Random source) (a : Key.Allocator)
    (gs : List Group) :
    (givenKeys source a gs).Nodup ∧ ∀ key ∈ givenKeys source a gs, key ∉ a.used := by
  have hsub : (givenKeys source a gs).Sublist (Key.allocateAll source a (gs.flatMap Group.places)).1 := by
    rw [← (prepareAll_gives source a gs).keys]
    exact keys_sublist_places _
  obtain ⟨hnodup, hnew⟩ := Key.allocateAll_new hs a (gs.flatMap Group.places)
  exact ⟨hnodup.sublist hsub, fun key hkey => hnew key (hsub.subset hkey)⟩

theorem mem_givenKeys {source : Key.Source} {a : Key.Allocator} {gs : List Group} {key : String}
    (h : key ∈ givenKeys source a gs) :
    (∃ g ∈ gs, key = g.key) ∨ ∃ n, key = Key.mint source "group" n := by
  induction gs generalizing a with
  | nil => cases h
  | cons g gs ih =>
      rw [givenKeys_cons] at h
      rcases List.mem_cons.mp h with rfl | h
      · rcases a.allocate_eq source g.key "group" with hkey | hmint
        · exact .inl ⟨g, List.mem_cons_self, hkey⟩
        · exact .inr hmint
      · rcases ih h with ⟨other, hother, hkey⟩ | hmint
        · exact .inl ⟨other, List.mem_cons_of_mem _ hother, hkey⟩
        · exact .inr hmint

-- Where the keys that groups come with are harmless, so are those that they are given.
theorem harmless_givenKeys {source : Key.Source} (hs : Key.Random source) (a : Key.Allocator)
    {gs : List Group} (h : ∀ g ∈ gs, Harmless g.key.toList) :
    ∀ key ∈ givenKeys source a gs, Harmless key.toList := by
  intro key hkey
  rcases mem_givenKeys hkey with ⟨g, hg, rfl⟩ | ⟨n, rfl⟩
  · exact h g hg
  · exact Key.harmless_mint hs (by decide) n

def printed (text : String) : List Char := Php.comment text.toList

theorem printed_of_harmless {key : String} (h : Harmless key.toList) : printed key = key.toList :=
  Php.comment_of_harmless h

theorem ink_printed (key : String) : ink (printed key) = ink key.toList := Php.ink_comment _

-- What a banner tells behind its slashes.
def bannerText (title key : String) : List Char :=
  " Template for Field Group: ".toList ++ (printed title ++ (" (".toList ++ (printed key ++ [')'])))

theorem scan_bannerRow (title key : String) :
    scan .code (bannerRow title key ++ ['\n']) = some ([.remark (bannerText title key)], .code) := by
  have hspace : " (".toList = [' ', '('] := by decide
  have hopen : scan .code "// Template for Field Group: ".toList =
      some ([], .remark " Template for Field Group: ".toList) := by decide
  have htitle : ∀ w, scan (.remark w) (printed title ++ [' ', '(']) =
      some ([], .remark (w ++ printed title ++ [' '] ++ ['('])) := fun w =>
    Php.scan_remark title.toList (by decide) w ['(']
  have hkey : ∀ w, scan (.remark w) (printed key ++ [')', '\n']) =
      some ([.remark (w ++ printed key ++ [')'])], .code) := fun w =>
    Php.scan_remark key.toList (by decide) w ['\n']
  have hall := Php.scan_trans (Php.scan_trans hopen (htitle _)) (hkey _)
  simp only [List.append_assoc, List.nil_append, List.cons_append] at hall
  unfold bannerRow bannerText
  simp only [hspace, List.append_assoc, List.cons_append, List.nil_append]
  exact hall

-- There are no line comments below the banner of a page.
def Page.Silent (p : Page) : Prop := ∃ ts, Tells .code (ended p.body) ts .code ∧ remarks ts = []

theorem Page.Silent.split {p : Page} (h : p.Silent) : p.split.Silent := by
  obtain ⟨ts, hbody, hts⟩ := h
  refine ⟨ts, ?_, hts⟩
  rw [Page.split, Text.ended_flatMap_lines]
  exact hbody

theorem Page.Silent.tidied {p p' : Page} (h : p.Silent) (htidied : p.Tidied p') : p'.Silent := by
  obtain ⟨ts, hbody, hts⟩ := h
  exact ⟨ts, tells_of_squeezesTo htidied.2 hbody, hts⟩

theorem silent_of_tidied {pages pages' : List Page}
    (htidied : List.Forall₂ (fun p p' => p.split.Tidied p') pages pages')
    (h : ∀ p ∈ pages, p.Silent) : ∀ p ∈ pages', p.Silent := by
  induction htidied with
  | nil => exact h
  | cons hpage _ ih =>
      obtain ⟨hfirst, hrest⟩ := List.forall_mem_cons.mp h
      exact List.forall_mem_cons.mpr ⟨hfirst.split.tidied hpage, ih hrest⟩

section

variable {s : Setting} (hcatalog : s.catalog = .standard)
  (hunit : ∀ c ∈ s.style.unit, Text.isIndent c = true)
include hcatalog hunit

theorem silent_of_pageOf {g : Group} {p : Page} (h : pageOf s g = .ok p) : p.Silent := by
  let a := Snippet.Accessor.nested { groupKey := g.key } ""
  have hsafe : s.catalog.Safe := hcatalog ▸ Snippet.Catalog.standard_safe
  obtain ⟨ls, hls, htells⟩ := (Snippet.lines_set hunit hsafe).2.1 g.fields a 0
  have hrows : remarks (gist ((Snippet.fieldsRows s.catalog a g.fields).flatMap
      (Placed.tokens s.style))) = [] := by
    rw [gist, Php.rewords_gist.remarks_map_eq_nil, Php.remarks_flatMap, List.flatMap_eq_nil_iff, hcatalog]
    exact fun row hrow => Placed.remarks_tokens s.style
      ((Snippet.has_of_mem_rows .standard).2.1 g.fields a row hrow)
  have hlevel : pageOf s g = ((Snippet.fieldsTrace s a 0 g.fields).rendered s.style.unit).text.map
    fun body => ⟨g.title, Text.lines body⟩ := rfl
  rw [hlevel] at h
  rcases Snippet.Trace.text_ok hls s.style.unit with ⟨e, he⟩ | htext
  · rw [he] at h
    cases h
  · rw [htext] at h
    cases h
    refine ⟨_, ?_, hrows⟩
    have hend : Tells .code ['\n'] [] .code := by decide
    rw [Text.ended_lines]
    simpa using htells.append hend

theorem silent_of_pagesOf {gs : List Group} {pages : List Page} (h : pagesOf s gs = .ok pages) :
    ∀ p ∈ pages, p.Silent := by
  induction gs generalizing pages with
  | nil =>
      cases h
      exact fun p hp => absurd hp List.not_mem_nil
  | cons g gs ih =>
      rw [pagesOf_cons] at h
      cases hpage : pageOf s g with
      | error e =>
          rw [hpage] at h
          cases h
      | ok p =>
          cases hrest : pagesOf s gs with
          | error e =>
              rw [hpage, hrest] at h
              cases h
          | ok ps =>
              rw [hpage, hrest] at h
              cases h
              exact List.forall_mem_cons.mpr ⟨silent_of_pageOf hcatalog hunit hpage, ih hrest⟩

end

theorem scan_pageRows {pages : List Page} (hsilent : ∀ p ∈ pages, p.Silent) {keys : List String}
    (hlength : keys.length = pages.length) :
    ∃ ts, scan .code (ended (pageRows pages keys)) = some (ts, .code) ∧
      remarks ts = List.zipWith bannerText (pages.map Page.title) keys := by
  induction pages generalizing keys with
  | nil => exact ⟨[], rfl, rfl⟩
  | cons p pages ih =>
      cases keys with
      | nil => cases hlength
      | cons key keys =>
          obtain ⟨⟨us, hbody, hus⟩, hrest⟩ := List.forall_mem_cons.mp hsilent
          obtain ⟨vs, hpages, hvs⟩ := ih hrest (Nat.succ.inj hlength)
          obtain ⟨ws, hscan, rfl⟩ := hbody.exists_scan
          have hws : remarks ws = [] := Php.rewords_gist.remarks_map_eq_nil.mp hus
          have hall := Php.scan_trans (scan_bannerRow p.title key) (Php.scan_trans hscan hpages)
          refine ⟨[.remark (bannerText p.title key)] ++ (ws ++ vs), ?_, ?_⟩
          · rw [pageRows_cons, Text.ended_cons, Text.ended_append]
            exact hall
          · rw [Php.remarks_append, Php.remarks_append, hws, hvs]
            rfl

-- A document is read as two line comments of its header, and the banners of its pages.
theorem lex_document (title : String) {time : String} (htime : IsTime time) {pages : List Page}
    (hsilent : ∀ p ∈ pages, p.Silent) {keys : List String} (hlength : keys.length = pages.length) :
    ∃ ts front, lex (tidy (header title time ++ ended (pageRows pages keys))) = some ts ∧
      front.length = 2 ∧
      remarks ts = front ++ List.zipWith bannerText (pages.map Page.title) keys := by
  obtain ⟨gap, pages', hgap, htidied, hdocument⟩ :=
    tidy_pageRows (opening ++ headerLines title time) pages
  have htitles := titles_of_tidied htidied
  have hcount : keys.length = pages'.length := by
    rw [hlength, ← List.length_map (f := Page.title), ← htitles, List.length_map]
  obtain ⟨us, hheader, hus⟩ := (tells_tidy (tells_header title htime)).exists_scan
  obtain ⟨vs, hpages, hvs⟩ := scan_pageRows (silent_of_tidied htidied hsilent) hcount
  have hspace : scan .code gap = some ([], .code) := by
    rcases hgap with rfl | rfl <;> rfl
  refine ⟨us ++ ([] ++ vs), remarks us, ?_, ?_, ?_⟩
  · rw [header_eq, ← List.append_assoc opening, hdocument keys hlength, List.append_assoc opening,
      tidy_opening, List.append_assoc, List.append_assoc]
    exact Php.lex_opening _ _ (Php.scan_trans hheader (Php.scan_trans hspace hpages))
  · rw [← Php.rewords_gist.length_remarks_map, ← gist, hus]
    rfl
  · rw [List.nil_append, Php.remarks_append, hvs, htitles]

theorem generate_banners {setup : Setup} (hcatalog : setup.catalog = .standard)
    (htime : IsTime setup.time) (a : Key.Allocator) (keys : List String) :
    (∃ e, (generate setup a (keys.map .key)).code = .error e ∧ e.IsIndentation) ∨
      ∃ code ts front, (generate setup a (keys.map .key)).code = .ok code ∧ lex code = some ts ∧
        front.length = 2 ∧
        remarks ts = front ++ List.zipWith bannerText ((resolved setup.library keys).map Group.title)
          (givenKeys setup.source a (resolved setup.library keys)) := by
  have hsafe : setup.catalog.Safe := hcatalog ▸ Snippet.Catalog.standard_safe
  rcases generate_tokens hsafe htime a keys with hfail | ⟨style, code, -, hstyle, hcode, -, -⟩
  · exact .inl hfail
  · have hdocument := generate_code hstyle a keys
    rw [hcode] at hdocument
    cases hpages : pagesOf ⟨setup.catalog, style⟩ (resolved setup.library keys) with
    | error e =>
        rw [hpages] at hdocument
        cases hdocument
    | ok pages =>
        rw [hpages] at hdocument
        obtain rfl := Except.ok.inj hdocument
        have htitles := titles_of_pagesOf _ hpages
        have hsilent := silent_of_pagesOf hcatalog (Style.isIndent_unit hstyle) hpages
        have hlength : (givenKeys setup.source a (resolved setup.library keys)).length =
            pages.length := by
          rw [length_givenKeys, ← List.length_map (f := Group.title), ← htitles, List.length_map]
        obtain ⟨ts, front, hlex, hfront, hremarks⟩ :=
          lex_document setup.options.headerTitle.display htime hsilent hlength
        rw [htitles] at hremarks
        exact .inr ⟨_, ts, front, hcode, hlex, hfront, hremarks⟩

-- Different keys that are printed alike.
theorem printed_alike {key other : String} (hne : key ≠ other) (h : printed key = printed other) :
    ink key.toList = ink other.toList ∧ ¬(Harmless key.toList ∧ Harmless other.toList) := by
  constructor
  · rw [← ink_printed, h, ink_printed]
  · rintro ⟨hkey, hother⟩
    rw [printed_of_harmless hkey, printed_of_harmless hother] at h
    exact hne (String.toList_injective h)

-- The line comments of a document are the two of its header and the banners of its groups, each with
-- the key that the group was given. These keys are new and differ. Two of them that are printed alike
-- differ in spaces and line ends only, and not both are harmless. So where the keys that groups come
-- with are harmless, keys are printed as they are and differ as printed.
theorem banners_of_groups (setup : Setup) (hcatalog : setup.catalog = .standard)
    (htime : IsTime setup.time) (hsource : Key.Random setup.source) (a : Key.Allocator)
    (keys : List String) :
    let o := generate setup a (keys.map .key)
    let groups := resolved setup.library keys
    let given := givenKeys setup.source a groups
    (∃ e, o.code = .error e ∧ e.IsIndentation) ∨
      ∃ code ts front, o.code = .ok code ∧ lex code = some ts ∧ front.length = 2 ∧
        remarks ts = front ++ List.zipWith bannerText (groups.map Group.title) given ∧
        given.length = groups.length ∧ given.Nodup ∧ (∀ key ∈ given, key ∉ a.used) ∧
        given.Pairwise (fun key other => printed key = printed other →
          ink key.toList = ink other.toList ∧ ¬(Harmless key.toList ∧ Harmless other.toList)) ∧
        ((∀ g ∈ groups, Harmless g.key.toList) →
          given.map printed = given.map String.toList ∧ (given.map printed).Nodup) := by
  intro o groups given
  obtain ⟨hnodup, hnew⟩ := givenKeys_new hsource a groups
  rcases generate_banners hcatalog htime a keys with
    hfail | ⟨code, ts, front, hcode, hlex, hfront, hremarks⟩
  · exact .inl hfail
  · refine .inr ⟨code, ts, front, hcode, hlex, hfront, hremarks,
      length_givenKeys setup.source a groups, hnodup, hnew, hnodup.imp printed_alike, ?_⟩
    intro hharmless
    have hsame : given.map printed = given.map String.toList :=
      List.map_congr_left fun key hkey =>
        printed_of_harmless (harmless_givenKeys hsource a hharmless key hkey)
    refine ⟨hsame, ?_⟩
    rw [hsame]
    exact hnodup.map fun _ _ => String.toList_injective

def heroPage (key : String) : Group := ⟨key, "Page", [], []⟩

def bannerSetup (gs : List Group) : Setup where
  library := ⟨gs⟩
  catalog := .standard
  source := Key.constantSource
  time := "2024-01-02 03:04:05"

-- A group that is requested twice is printed with two keys.
theorem banners_of_heroPage :
    let o := generate (bannerSetup [heroPage "group_hero"]) {} (["group_hero", "group_hero"].map .key)
    ∃ code ts front, o.code = .ok code ∧ lex code = some ts ∧ front.length = 2 ∧
      remarks ts = front ++ [bannerText "Page" "group_hero",
        bannerText "Page" "group_0123456780001_1700000000"] ∧
      printed "group_hero" ≠ printed "group_0123456780001_1700000000" := by
  intro o
  let setup := bannerSetup [heroPage "group_hero"]
  have htime : IsTime setup.time := by decide +kernel
  have hok : o.code.isOk = true := by decide +kernel
  have hgroups : resolved setup.library ["group_hero", "group_hero"] =
      [heroPage "group_hero", heroPage "group_hero"] := by
    simp [resolved, setup, bannerSetup, Library.find?, heroPage]
  have hgiven : givenKeys setup.source {} [heroPage "group_hero", heroPage "group_hero"] =
      ["group_hero", "group_0123456780001_1700000000"] := by decide +kernel
  rcases banners_of_groups setup rfl htime Key.constantSource_random {} ["group_hero", "group_hero"] with
    ⟨e, he, -⟩ | ⟨code, ts, front, hcode, hlex, hfront, hremarks, -, -, -, -, hdistinct⟩
  · have he : o.code = .error e := he
    rw [he] at hok
    cases hok
  · have hharmless : Harmless "group_hero".toList := Php.harmless_of_word (by decide)
    rw [hgroups] at hremarks hdistinct
    rw [hgiven] at hremarks hdistinct
    have hnodup := (hdistinct (by simpa [heroPage] using hharmless)).2
    refine ⟨code, ts, front, hcode, hlex, hfront, hremarks, ?_⟩
    exact fun h => (List.nodup_cons.mp hnodup).1 (List.mem_singleton.mpr h)

-- Two keys that differ in a line end are given as they are, and printed alike.
theorem banners_of_brokenKey :
    let setup := bannerSetup [heroPage "page\nhero", heroPage "page hero"]
    let o := generate setup {} (["page\nhero", "page hero"].map .key)
    givenKeys setup.source {} (resolved setup.library ["page\nhero", "page hero"]) =
        ["page\nhero", "page hero"] ∧ printed "page\nhero" = printed "page hero" ∧
      ∃ code ts, o.code = .ok code ∧ lex code = some ts ∧
        (remarks ts).drop 2 = [bannerText "Page" "page hero", bannerText "Page" "page hero"] := by
  intro setup o
  have hgroups : resolved setup.library ["page\nhero", "page hero"] =
      [heroPage "page\nhero", heroPage "page hero"] := by
    simp [resolved, setup, bannerSetup, Library.find?, heroPage]
  have hremarks : (o.code.toOption.bind lex).map (fun ts => (remarks ts).drop 2) =
      some [bannerText "Page" "page hero", bannerText "Page" "page hero"] := by decide +kernel
  refine ⟨by rw [hgroups]; decide +kernel, by decide +kernel, ?_⟩
  cases hcode : o.code with
  | error e =>
      rw [hcode] at hremarks
      cases hremarks
  | ok code =>
      rw [hcode] at hremarks
      obtain ⟨ts, hlex, hts⟩ := Option.map_eq_some_iff.mp hremarks
      exact ⟨code, ts, rfl, hlex, hts⟩

end Document

end FieldTemplates
