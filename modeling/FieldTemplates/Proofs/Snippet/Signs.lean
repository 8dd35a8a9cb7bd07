import FieldTemplates.Proofs.Php.Fill
import FieldTemplates.Proofs.Snippet.Row

namespace FieldTemplates.Snippet

open Php (State Token isSign scan skim)

-- The texts that literals and comments can hold.
inductive Slot where
  | name
  | className
  | commentName
  | commentType
  | textDomain
  | imageSize
  | gallerySize
deriving DecidableEq, Repr

namespace Slot

def sign : Slot → Char
  | name => '\uE000'
  | className => '\uE001'
  | commentName => '\uE002'
  | commentType => '\uE003'
  | textDomain => '\uE004'
  | imageSize => '\uE005'
  | gallerySize => '\uE006'

def all : List Slot :=
  [name, className, commentName, commentType, textDomain, imageSize, gallerySize]

def ofSign? (c : Char) : Option Slot := all.find? (·.sign == c)

theorem ofSign?_sign (slot : Slot) : ofSign? slot.sign = some slot := by
  cases slot <;> decide

theorem ofSign?_plain {c : Char} (hc : isSign c = false) : ofSign? c = none := by
  refine List.find?_eq_none.mpr fun slot _ hsign => ?_
  rw [← beq_iff_eq.mp hsign] at hc
  cases slot <;> exact absurd hc (by decide)

-- What a literal or a comment holds in the place of the sign.
def text (style : Style) (subject : Subject) : Slot → List Char
  | name => subject.name.toList
  | className => subject.name.toList.flatMap Php.attributeText
  | commentName => Php.comment subject.name.toList
  | commentType => Php.comment subject.type.toList
  | textDomain => style.textDomain
  | imageSize => style.imageSize
  | gallerySize => style.gallerySize

-- What a character stands for.
def meant (style : Style) (subject : Subject) (c : Char) : List Char :=
  match ofSign? c with
  | some slot => slot.text style subject
  | none => [c]

theorem meant_sign (style : Style) (subject : Subject) (slot : Slot) :
    meant style subject slot.sign = slot.text style subject := by
  rw [meant, ofSign?_sign]

theorem meant_plain (style : Style) (subject : Subject) {c : Char} (hc : isSign c = false) :
    meant style subject c = [c] := by
  rw [meant, ofSign?_plain hc]

theorem flatMap_meant_plain (style : Style) (subject : Subject) {cs : List Char}
    (hcs : cs.all (!isSign ·) = true) : cs.flatMap (meant style subject) = cs := by
  have hself : ∀ c ∈ cs, meant style subject c = [c] := fun c hc =>
    meant_plain style subject (by simpa using List.all_eq_true.mp hcs c hc)
  rw [List.flatMap_congr hself, List.flatMap_singleton']

end Slot

namespace Piece

def slot? : Piece → Option Slot
  | literalName => some .name
  | className => some .className
  | commentName => some .commentName
  | commentType => some .commentType
  | textDomain => some .textDomain
  | imageSize => some .imageSize
  | gallerySize => some .gallerySize
  | code _ | value | bareName => none

def signed (sub : Bool) : Piece → List Char
  | code t => t.toList
  | value => accessText sub ++ [Slot.name.sign] ++ "')".toList
  | bareName => []
  | p => p.slot?.toList.map Slot.sign

def isPlain : Piece → Bool
  | code t => t.toList.all (!isSign ·)
  | _ => true

end Piece

def signedText (sub : Bool) (row : Row) : List Char := row.flatMap (Piece.signed sub)

def signedTokens (sub : Bool) (row : Row) : List Token :=
  ((scan .code (signedText sub row ++ ['\n'])).map (·.1)).getD []

variable (style : Style) (subject : Subject) (sub : Bool)

-- What is read of a text with signs, and of the text itself.
def Fills (s : State) (signed cs : List Char) (us : List Token) (u : State) : Prop :=
  scan s signed = some (us, u) ∧
    scan (s.fill (Slot.meant style subject)) cs =
      some (us.map (Token.fill (Slot.meant style subject)), u.fill (Slot.meant style subject))

variable {style subject sub}

theorem Fills.append {s m u : State} {signed more cs ds : List Char} {us vs : List Token}
    (hfirst : Fills style subject s signed cs us m) (hrest : Fills style subject m more ds vs u) :
    Fills style subject s (signed ++ more) (cs ++ ds) (us ++ vs) u := by
  refine ⟨Php.scan_trans hfirst.1 hrest.1, ?_⟩
  rw [List.map_append]
  exact Php.scan_trans hfirst.2 hrest.2

-- Code is what it is.
theorem fills_code (style : Style) (subject : Subject) {s t : State} {cs : List Char}
    {ts : List Token} (hcs : ∀ c ∈ cs, isSign c = false)
    (h : skim s.bare cs = some (ts, t)) :
    ∃ us u, Fills style subject s cs cs us u ∧ u.bare = t := by
  have hskim : Php.Reads s cs ts t := (Php.outlineView.read_state s cs).symm.trans h
  obtain ⟨us, u, hscan, -, hbare⟩ := hskim.exists_scan
  refine ⟨us, u, ⟨hscan, ?_⟩, hbare⟩
  rw [Php.scan_fill (fun c => Slot.meant_plain style subject) s hcs, hscan]
  rfl

theorem fills_literal (style : Style) (subject : Subject) (w : List Char) (slot : Slot) {cs : List Char}
    (hscan : ∀ w, scan (.literal w) cs = some ([], .literal (w ++ slot.text style subject))) :
    Fills style subject (.literal w) [slot.sign] cs [] (.literal (w ++ [slot.sign])) := by
  constructor
  · cases slot <;> rfl
  · rw [State.fill, hscan, State.fill, List.flatMap_append, List.flatMap_singleton, Slot.meant_sign]
    rfl

theorem accessText_plain : ∀ c ∈ accessText sub, isSign c = false := by
  have hall : (accessText sub).all (!isSign ·) = true := by cases sub <;> decide
  simpa using hall

theorem fills_value {s t : State} {ts : List Token}
    (h : Mark.value.read? (accessText sub) s.bare = some (ts, t)) :
    ∃ us u, Fills style subject s (Piece.value.signed sub)
      (Piece.value.text style { isSubField := sub } subject) us u ∧ u.bare = t := by
  simp only [Mark.read?] at h
  split at h
  · rename_i vs hskim
    cases h
    obtain ⟨us, u, hopen, hbare⟩ := fills_code style subject accessText_plain hskim
    obtain ⟨w, rfl⟩ : ∃ w, u = .literal w := by cases u <;> first | exact ⟨_, rfl⟩ | cases hbare
    have hname := fills_literal style subject w .name (Php.scan_quoted · subject.name.toList)
    have hclose : Fills style subject (.literal (w ++ [Slot.name.sign])) "')".toList "')".toList
        [.literal (w ++ [Slot.name.sign]), .symbol ')'] .code := ⟨rfl, rfl⟩
    exact ⟨_, _, (hopen.append hname).append hclose, rfl⟩
  · cases h

theorem Piece.fills {p : Piece} (hp : p.mark ≠ .inComment) (hplain : p.isPlain = true) {s t : State}
    {ts : List Token} (h : p.mark.read? (accessText sub) s.bare = some (ts, t)) :
    ∃ us u, Fills style subject s (p.signed sub) (p.text style { isSubField := sub } subject) us u ∧
      u.bare = t := by
  cases p with
  | code text =>
      have hcode : ∀ c ∈ text.toList, isSign c = false := by simpa [isPlain] using hplain
      exact fills_code style subject hcode h
  | value => exact fills_value h
  | commentName | commentType => exact absurd rfl hp
  | bareName => cases h
  | literalName | className | textDomain | imageSize | gallerySize =>
      simp only [mark, Mark.read?] at h
      split at h
      · rename_i hs
        obtain ⟨w, rfl⟩ : ∃ w, s = .literal w := by cases s <;> first | exact ⟨_, rfl⟩ | cases hs
        cases h
        refine ⟨_, _, fills_literal style subject w _ ?_, rfl⟩
        intro w
        first | exact Php.scan_quoted w _ | exact Php.scan_inAttribute w _
      · cases h

theorem Piece.slot_of_inComment (style : Style) (subject : Subject) (sub : Bool) {p : Piece}
    (hp : p.mark = .inComment) :
    ∃ (slot : Slot) (text : List Char), p.signed sub = [slot.sign] ∧
      p.text style { isSubField := sub } subject = Php.comment text ∧
      slot.text style subject = Php.comment text := by
  cases p with
  | commentName => exact ⟨.commentName, _, rfl, rfl, rfl⟩
  | commentType => exact ⟨.commentType, _, rfl, rfl, rfl⟩
  | code | value | literalName | className | bareName | textDomain | imageSize | gallerySize =>
      cases hp

theorem fills_row (style : Style) (subject : Subject) {row : Row}
    (hplain : row.all Piece.isPlain = true) {s t : State} {ts : List Token}
    (h : readMarks? (accessText sub) s.bare (row.map Piece.mark) = some (ts, t)) :
    ∃ us u, Fills style subject s (signedText sub row)
      (rowText style { isSubField := sub } subject row) us u ∧ u.bare = t := by
  induction row generalizing s ts with
  | nil =>
      obtain ⟨us, u, hfills, hbare⟩ := fills_code style subject
        (fun c hc => absurd hc List.not_mem_nil) h
      exact ⟨us, u, hfills, hbare⟩
  | cons p row ih =>
      obtain ⟨hp, hrow⟩ := Bool.and_eq_true_iff.mp (List.all_cons.symm.trans hplain)
      simp only [List.map_cons, readMarks?] at h
      split at h
      · cases h
      · rename_i happart
        obtain ⟨⟨vs, m⟩, hpiece, h⟩ := Option.bind_eq_some_iff.mp h
        obtain ⟨⟨ws, t'⟩, hmarks, h⟩ := Option.map_eq_some_iff.mp h
        obtain ⟨rfl, rfl⟩ := Prod.mk.inj h
        by_cases hcomment : p.mark = .inComment
        · have hstarts : startsApart (row.map Piece.mark) = true := by simpa [hcomment] using happart
          obtain ⟨c, cs, htext, hne⟩ :=
            startsApart_text style { isSubField := sub } subject hstarts
          obtain ⟨slot, text, hsigned, hown, hslot⟩ :=
            Piece.slot_of_inComment style subject sub hcomment
          simp only [hcomment, Mark.read?] at hpiece
          split at hpiece
          · rename_i hs
            cases hpiece
            obtain ⟨w, rfl⟩ : ∃ w, s = .comment w := by cases s <;> first | exact ⟨_, rfl⟩ | cases hs
            obtain ⟨us, u, ⟨hleft, hright⟩, hbare⟩ := ih hrow (s := .comment (w ++ [slot.sign])) hmarks
            refine ⟨us, u, ⟨?_, ?_⟩, hbare⟩
            · have hstep : Php.step (.comment w) slot.sign =
                  some ([], .comment (w ++ [slot.sign])) := by cases slot <;> rfl
              change scan _ (p.signed sub ++ signedText sub row) = _
              rw [hsigned, List.singleton_append, Php.scan_of_step hstep]
              exact hleft
            · change scan _ (p.text style _ subject ++ rowText style _ subject row) = _
              rw [State.fill, List.flatMap_append, List.flatMap_singleton, Slot.meant_sign, hslot,
                htext] at hright
              rw [hown, htext, State.fill, Php.scan_comment text hne]
              exact hright
          · cases hpiece
        · obtain ⟨us, u, hfirst, hbare⟩ := Piece.fills hcomment hp hpiece
          rw [← hbare] at hmarks
          obtain ⟨us', u', hrest, hbare'⟩ := ih hrow hmarks
          exact ⟨us ++ us', u', hfirst.append hrest, hbare'⟩

-- The tokens of a row are those of its signs with the texts in their place.
theorem rowTokens_eq {row : Row} (hsafe : isSafe row = true) (hplain : row.all Piece.isPlain = true) :
    rowTokens style subject sub row =
      (signedTokens sub row).map (Token.fill (Slot.meant style subject)) := by
  have hended : row.ended.all Piece.isPlain = true := by
    rw [Row.ended, List.all_append, hplain]
    decide
  obtain ⟨us, u, ⟨hleft, hright⟩, -⟩ := fills_row style subject (s := .code) hended
    (readMarks_ended hsafe sub)
  have hsigned : signedText sub row.ended = signedText sub row ++ ['\n'] := by
    simp [signedText, Row.ended, Piece.signed]
  rw [hsigned] at hleft
  have hcode : State.fill (Slot.meant style subject) .code = .code := rfl
  rw [hcode, rowText_ended] at hright
  rw [rowTokens, signedTokens, hleft, hright]
  rfl

end FieldTemplates.Snippet
