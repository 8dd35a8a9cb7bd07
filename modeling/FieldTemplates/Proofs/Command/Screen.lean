import FieldTemplates.Command.Screen
import FieldTemplates.Proofs.Text.Rows
import FieldTemplates.Proofs.Text.Utf8

namespace FieldTemplates.Command

-- The name of a style, in small letters.
structure IsStyle (name : List Char) : Prop where
  nonempty : name ≠ []
  small : ∀ c ∈ name, c.isLower = true

theorem IsStyle.notMem {name : List Char} (h : IsStyle name) {c : Char} (hc : c.isLower = false) :
    c ∉ name := fun hmem => by
  rw [h.small c hmem] at hc
  cases hc

-- A text in a style, as markup.
def styled (style text : List Char) : List Char :=
  '[' :: (style ++ ']' :: text) ++ '[' :: ('/' :: style ++ [']'])

-- What is documented of a screen: it shows a styled text, and the text behind it, where they hold no other
-- brackets and there are bytes for them, and refuses a tag that closes what is not open.
structure Screen.Documented (s : Screen) : Prop where
  shows : ∀ channel {style text rest : List Char}, IsStyle style → '[' ∉ text → '\\' ∉ text →
    '[' ∉ rest → (∃ bytes, Text.Utf8.encode text = .ok bytes) →
    (∃ bytes, Text.Utf8.encode rest = .ok bytes) →
    ∃ cs, s.paragraph channel (String.ofList (styled style text ++ rest)) = .ok cs
  refuses : ∀ channel {style text before name : List Char} (rest : List Char), IsStyle style →
    '[' ∉ text → '\\' ∉ text → '[' ∉ before → '\\' ∉ before → IsStyle name →
    ∃ message, s.paragraph channel (String.ofList
      (styled style text ++ (before ++ '[' :: ('/' :: name ++ ']' :: rest)))) = .error (.markup message)

-- Reads what stands behind opening brackets, with the styles that are open.
def readTags (opened : List (List Char)) (position : Nat) :
    List (List Char) → Except ScreenError (List Char)
  | [] => .ok []
  | piece :: pieces =>
    let tag := piece.takeWhile (· != ']')
    let text := (piece.dropWhile (· != ']')).tail
    let next := position + 1 + piece.length
    if tag.head? = some '/' then
      if opened.contains tag.tail then (readTags (opened.erase tag.tail) next pieces).map (text ++ ·)
      else .error (.markup
        s!"closing tag '[{String.ofList tag}]' at position {position} doesn't match any open tag")
    else (readTags (tag :: opened) next pieces).map (text ++ ·)

def written (cs : List Char) : Except ScreenError (List Char) :=
  match Text.Utf8.encode cs with
  | .ok _ => .ok cs
  | .error e => .error (.unencodable e)

-- Markup without its tags, on a line.
def readMarkup (markup : List Char) : Except ScreenError (List Char) :=
  match Text.pieces '[' markup with
  | [] => written ['\n']
  | text :: pieces => do written (text ++ (← readTags [] text.length pieces) ++ ['\n'])

-- A wide screen for markup that is made of styles, and for nothing else.
def tagScreen : Screen where
  paragraph _ markup := readMarkup markup.toList
  grid _ _ := written []
  panel _ _ := written []
  plain _ text := written text.toList

variable {opened : List (List Char)} {position : Nat} {style : List Char}

theorem takeWhile_tag {tag : List Char} (h : ']' ∉ tag) (text : List Char) :
    (tag ++ ']' :: text).takeWhile (· != ']') = tag ∧
      (tag ++ ']' :: text).dropWhile (· != ']') = ']' :: text := by
  have hall : ∀ c ∈ tag, (c != ']') = true := fun c hc => by
    rw [bne_iff_ne]
    exact fun heq => h (heq ▸ hc)
  rw [List.takeWhile_append_of_pos hall, List.dropWhile_append_of_pos hall]
  exact ⟨List.append_nil tag, rfl⟩

theorem readTags_opening (h : IsStyle style) (text : List Char) (pieces : List (List Char)) :
    readTags opened position ((style ++ ']' :: text) :: pieces) =
      (readTags (style :: opened) (position + 1 + (style ++ ']' :: text).length) pieces).map
        (text ++ ·) := by
  obtain ⟨htag, htext⟩ := takeWhile_tag (h.notMem rfl) text
  have hslash : style.head? ≠ some '/' := fun hhead => by
    have hnone : '/' ∉ style := h.notMem rfl
    exact hnone (List.mem_of_head? hhead)
  rw [readTags, htag, htext, if_neg hslash]
  rfl

theorem readTags_closing (h : IsStyle style) (text : List Char) (pieces : List (List Char)) :
    readTags (style :: opened) position (('/' :: style ++ ']' :: text) :: pieces) =
      (readTags opened (position + 1 + ('/' :: style ++ ']' :: text).length) pieces).map (text ++ ·) := by
  have hname : ']' ∉ '/' :: style := List.not_mem_cons_of_ne_of_not_mem (by decide) (h.notMem rfl)
  obtain ⟨htag, htext⟩ := takeWhile_tag hname text
  rw [readTags, htag, htext]
  simp only [List.head?_cons, List.tail_cons, List.contains_cons, beq_self_eq_true, Bool.true_or, if_true,
    List.erase_cons_head]

theorem readTags_unopened (h : IsStyle style) (text : List Char) (pieces : List (List Char)) :
    ∃ message, readTags [] position (('/' :: style ++ ']' :: text) :: pieces) =
      .error (.markup message) := by
  have hname : ']' ∉ '/' :: style := List.not_mem_cons_of_ne_of_not_mem (by decide) (h.notMem rfl)
  rw [readTags, (takeWhile_tag hname text).1]
  exact ⟨_, rfl⟩

theorem pieces_styled (h : IsStyle style) {text rest first : List Char} {pieces : List (List Char)}
    (htext : '[' ∉ text) (hrest : Text.pieces '[' rest = first :: pieces) :
    Text.pieces '[' (styled style text ++ rest) =
      [] :: (style ++ ']' :: text) :: ('/' :: style ++ ']' :: first) :: pieces := by
  have hopening : '[' ∉ style ++ ']' :: text := by
    simp [h.notMem (c := '[') rfl, htext]
  have hclosing : '[' ∉ '/' :: style ++ [']'] := by
    simp [h.notMem (c := '[') rfl]
  rw [styled, List.append_assoc, List.cons_append, List.cons_append, Text.pieces_sep,
    Text.pieces_append_sep hopening, Text.pieces_plain_append hclosing hrest, List.append_assoc,
    List.singleton_append]

theorem paragraph_tagScreen (channel : Channel) (markup : List Char) :
    tagScreen.paragraph channel (String.ofList markup) = readMarkup markup :=
  congrArg readMarkup String.toList_ofList

theorem tagScreen_documented : tagScreen.Documented where
  shows channel style text rest hstyle htext _ hrest hbytes hbytes' := by
    have hpieces := pieces_styled hstyle htext (Text.pieces_of_notMem hrest)
    have hbreak : ∃ bytes, Text.Utf8.encode ['\n'] = .ok bytes :=
      Text.Utf8.encode_ok_of_low (by simp)
    obtain ⟨bytes, hline⟩ := Text.Utf8.encode_ok_append (Text.Utf8.encode_ok_append hbytes hbytes') hbreak
    refine ⟨text ++ rest ++ ['\n'], ?_⟩
    have htags : readTags [] 0 [style ++ ']' :: text, '/' :: style ++ ']' :: rest] = .ok (text ++ rest) := by
      rw [readTags_opening hstyle, readTags_closing hstyle]
      exact congrArg (fun cs => Except.ok (text ++ cs)) (List.append_nil rest)
    have hmarkup : readMarkup (styled style text ++ rest) = written (text ++ rest ++ ['\n']) := by
      rw [readMarkup, hpieces]
      simp only [List.length_nil, htags]
      rfl
    rw [paragraph_tagScreen, hmarkup, written, hline]
  refuses channel style text before name rest hstyle htext _ hbefore _ hname := by
    obtain ⟨first, pieces, hrest⟩ := List.exists_cons_of_ne_nil (Text.pieces_ne_nil '[' rest)
    have htag : '[' ∉ '/' :: name ++ [']'] := by
      simp [hname.notMem (c := '[') rfl]
    have hbehind : Text.pieces '[' (before ++ '[' :: ('/' :: name ++ ']' :: rest)) =
        before :: ('/' :: name ++ ']' :: first) :: pieces := by
      have hclosing := Text.pieces_plain_append htag hrest
      rw [List.append_assoc, List.singleton_append, List.append_assoc, List.singleton_append] at hclosing
      rw [Text.pieces_append_sep hbefore, hclosing]
    have hpieces := pieces_styled hstyle htext hbehind
    have htags : ∃ message, readTags [] 0 ((style ++ ']' :: text) :: ('/' :: style ++ ']' :: before) ::
        ('/' :: name ++ ']' :: first) :: pieces) = .error (.markup message) := by
      rw [readTags_opening hstyle, readTags_closing hstyle]
      obtain ⟨message, hmessage⟩ := readTags_unopened hname first pieces
      exact ⟨message, by rw [hmessage]; rfl⟩
    obtain ⟨message, hmessage⟩ := htags
    refine ⟨message, ?_⟩
    rw [paragraph_tagScreen, readMarkup, hpieces]
    simp only [List.length_nil, hmessage]
    rfl

end FieldTemplates.Command
