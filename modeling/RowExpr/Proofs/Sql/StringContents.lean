import RowExpr.Proofs.Sql.CatalogReading
import RowExpr.Proofs.Sql.StepTokens
import RowExpr.Proofs.Sql.StringPlaces

/-!
# What strings hold

Whatever the string literals of an expression over the catalog hold, the characters of trims apart,
its text is split into the tokens of one frame, with a slot for each string that is written
(`tokens_text_of_varies`). Each text has its own strings in the slots, and is the same as the
others outside of them. A dialect may trim in any style and have any features.
-/

namespace RowExpr

namespace Sql.Standard

/-! ## Frames -/

/-- A token, or a slot for the string that stands at a place. -/
inductive Piece
  | token (t : Token)
  | string (place : Node.Place)
  deriving DecidableEq, Repr

namespace Piece

def place? : Piece → Option Node.Place
  | token _ => none
  | string place => some place

/-- What a piece is in the text whose strings hold these contents. -/
inductive Fills (contents : Node.Place → Option String) : Piece → Token → Prop
  | token (t : Token) : Fills contents (token t) t
  | string {place : Node.Place} {s : String} :
    contents place = some s → Fills contents (string place) (.quoted '\'' s)

/-- The piece, for the call of which this is an operand. -/
def under (i : Nat) : Piece → Piece
  | token t => token t
  | string place => string (i :: place)

theorem Fills.under {contents : Node.Place → Option String} {i : Nat} {piece : Piece} {t : Token}
    (h : Fills (fun place => contents (i :: place)) piece t) :
    Fills contents (piece.under i) t := by
  cases h with
  | token => exact .token t
  | string h => exact .string h

theorem forall₂_fills_tokens (contents : Node.Place → Option String) (ts : List Token) :
    List.Forall₂ (Fills contents) (ts.map token) ts := by
  rw [List.forall₂_map_left_iff, List.forall₂_same]
  exact fun t _ => .token t

theorem places_tokens (ts : List Token) : (ts.map token).filterMap place? = [] := by
  simp [place?]

theorem places_under (i : Nat) (frame : List Piece) :
    (frame.map (under i)).filterMap place? = (frame.filterMap place?).map (i :: ·) := by
  rw [List.filterMap_map, List.map_filterMap]
  congr 1
  funext piece
  cases piece <;> rfl

end Piece

/-- The text of an expression consists of the tokens of a frame, with the strings of the
expression in the slots. -/
def Fits (d : Dialect) (left right : Nat) (frame : List Piece) (n : Node) : Prop :=
  ∃ ts, tokens grammar.lexicon (text d n left right).toList = some ts ∧
    List.Forall₂ (Piece.Fills n.stringAt) frame ts

/-! ## Texts with one frame -/

section

-- Not two texts are compared but any number of them, so that the frame is the same for all.
variable {ι : Type} {contents : ι → Node.Place → Option String}

/-- Texts, in steps, that have one frame, with slots for these places. -/
def Framed (contents : ι → Node.Place → Option String) (places : List Node.Place)
    (steps : ι → List Step) : Prop :=
  ∃ frame : List Piece, frame.filterMap Piece.place? = places ∧
    ∀ i, ∃ ts, SpelledAll grammar.lexicon (steps i) ts ∧
      List.Forall₂ (Piece.Fills (contents i)) frame ts

/-- Between all neighbours. -/
def FramedIn (contents : ι → Node.Place → Option String) (places : List Node.Place)
    (part : ι → Fragment) : Prop :=
  ∀ left right, Framed contents places fun i => part i left right

inductive FramedAll (contents : ι → Node.Place → Option String) :
    List (List Node.Place) → (ι → List Fragment) → Prop
  | nil : FramedAll contents [] fun _ => []
  | cons {places : List Node.Place} {part : ι → Fragment} {placesAll : List (List Node.Place)}
    {parts : ι → List Fragment} :
    FramedIn contents places part → FramedAll contents placesAll parts →
    FramedAll contents (places :: placesAll) fun i => part i :: parts i

variable {places places' : List Node.Place} {as bs : ι → List Step}

theorem framed_same {steps : List Step} {ts : List Token}
    (h : SpelledAll grammar.lexicon steps ts) : Framed contents [] fun _ => steps :=
  ⟨ts.map .token, Piece.places_tokens ts, fun _ => ⟨ts, h, Piece.forall₂_fills_tokens _ ts⟩⟩

theorem framed_nil : Framed contents [] fun _ => [] := framed_same .nil

theorem Framed.append (ha : Framed contents places as) (hb : Framed contents places' bs) :
    Framed contents (places ++ places') fun i => as i ++ bs i := by
  obtain ⟨frame, rfl, hframe⟩ := ha
  obtain ⟨frame', rfl, hframe'⟩ := hb
  refine ⟨frame ++ frame', List.filterMap_append, fun i => ?_⟩
  obtain ⟨ts, hts, hfills⟩ := hframe i
  obtain ⟨us, hus, hfills'⟩ := hframe' i
  exact ⟨ts ++ us, hts.append hus, List.rel_append hfills hfills'⟩

/-- A step that is split into the same tokens wherever it stands. -/
def Plain (s : Step) : Prop := ∃ ts, Spelled grammar.lexicon s ts

theorem framed_plain {s : Step} (hs : Plain s) : Framed contents [] fun _ => [s] := by
  obtain ⟨ts, hs⟩ := hs
  exact framed_same (.cons hs .nil)

theorem Framed.behind (h : Framed contents places bs) {s : Step} (hs : Plain s) :
    Framed contents places fun i => s :: bs i :=
  (framed_plain hs).append h

theorem Framed.before (h : Framed contents places as) {s : Step} (hs : Plain s) :
    Framed contents places fun i => as i ++ [s] := by
  simpa using h.append (framed_plain hs)

/-- What an operand is written as is part of the text of the call. -/
theorem Framed.under {j : Nat} (h : Framed (fun i place => contents i (j :: place)) places as) :
    Framed contents (places.map (j :: ·)) as := by
  obtain ⟨frame, rfl, hframe⟩ := h
  refine ⟨frame.map (Piece.under j), Piece.places_under j frame, fun i => ?_⟩
  obtain ⟨ts, hts, hfills⟩ := hframe i
  refine ⟨ts, hts, ?_⟩
  rw [List.forall₂_map_left_iff]
  exact hfills.imp fun _ _ => Piece.Fills.under

theorem framed_stringText {strings : ι → String} (h : ∀ i, contents i [] = some (strings i))
    (name : TypeName) : Framed contents [[]] fun i => [.word (stringText (strings i) name)] := by
  obtain ⟨ts, hsplits⟩ := splits_stringText name
  refine ⟨ts.map .token ++ [.string []], ?_, fun i => ?_⟩
  · rw [List.filterMap_append, Piece.places_tokens]
    rfl
  · have hslot : List.Forall₂ (Piece.Fills (contents i)) [.string []]
        [.quoted '\'' (strings i)] := .cons (.string (h i)) .nil
    have hspelled := SpelledAll.cons (.word (hsplits (strings i))) .nil
    rw [List.append_nil] at hspelled
    exact ⟨_, hspelled, List.rel_append (Piece.forall₂_fills_tokens _ ts) hslot⟩

theorem plain_comma : Plain .comma := ⟨_, .comma⟩

theorem plain_paren : Plain .paren := ⟨_, .paren⟩

theorem plain_close : Plain .close := ⟨_, .close⟩

theorem plain_call {name : String} (h : grammar.lexicon.IsWord name.toList) :
    Plain (.call name) := ⟨_, .call h⟩

theorem plain_word {text : String} (h : ∃ ts, grammar.lexicon.Splits text.toList ts) :
    Plain (.word text) := by
  obtain ⟨ts, h⟩ := h
  exact ⟨ts, .word h⟩

theorem plain_words (ws : List String) (hws : ∀ w ∈ ws, grammar.lexicon.IsWord w.toList)
    (hne : ws ≠ []) {text : String}
    (htext : text.toList = [' '].intercalate (ws.map String.toList)) : Plain (.word text) := by
  apply plain_word
  rw [htext]
  exact ⟨_, splits_words hws hne⟩

theorem plain_quoteString (s : String) : Plain (.word (quoteString s)) := by
  apply plain_word
  rw [quoteString, String.toList_ofList]
  exact ⟨_, splits_quoted (by decide) s⟩

theorem FramedAll.length {placesAll : List (List Node.Place)} {parts : ι → List Fragment}
    (h : FramedAll contents placesAll parts) (i : ι) : (parts i).length = placesAll.length := by
  induction h with
  | nil => rfl
  | cons _ _ ih => rw [List.length_cons, List.length_cons, ih]

theorem framedAll_of_getElem {placesAll : List (List Node.Place)} {parts : ι → List Fragment}
    (hlength : ∀ i, (parts i).length = placesAll.length)
    (h : ∀ (j : Nat) (places : List Node.Place), placesAll[j]? = some places →
      ∃ part : ι → Fragment, (∀ i, (parts i)[j]? = some (part i)) ∧ FramedIn contents places part) :
    FramedAll contents placesAll parts := by
  induction placesAll generalizing parts with
  | nil =>
    have hnil : parts = fun _ => [] := funext fun i => List.eq_nil_of_length_eq_zero (hlength i)
    rw [hnil]
    exact .nil
  | cons places rest ih =>
    obtain ⟨part, hpart, hframed⟩ := h 0 places rfl
    have hparts : parts = fun i => part i :: (parts i).tail := by
      funext i
      have hhead : (parts i).head? = some (part i) := by rw [List.head?_eq_getElem?, hpart]
      exact (List.cons_head?_tail hhead).symm
    rw [hparts]
    refine .cons hframed (ih (fun i => ?_) fun j places' hj => ?_)
    · rw [List.length_tail, hlength]
      rfl
    · obtain ⟨part', hpart', hframed'⟩ := h (j + 1) places' hj
      exact ⟨part', fun i => by rw [List.getElem?_tail, hpart'], hframed'⟩

/-! ## Spellings -/

theorem framedIn_wrap {opLeft opRight : Nat} {body : ι → Fragment}
    (h : FramedIn contents places body) :
    FramedIn contents places fun i => wrap opLeft opRight (body i) := by
  intro left right
  show Framed contents places fun i => if needsParens opLeft opRight left right then
    .paren :: body i 0 0 ++ [.close] else body i left right
  split
  · exact ((h 0 0).behind plain_paren).before plain_close
  · exact h left right

section

variable {placesAll : List (List Node.Place)} {parts : ι → List Fragment}
  (hparts : FramedAll contents placesAll parts)
include hparts

theorem framed_flatMap {f : Fragment → List Step}
    (hf : ∀ {places part}, FramedIn contents places part →
      Framed contents places fun i => f (part i)) :
    Framed contents placesAll.flatten fun i => (parts i).flatMap f := by
  induction hparts with
  | nil => exact framed_nil
  | cons hfirst _ ih => exact (hf hfirst).append ih

theorem framed_intercalate :
    Framed contents placesAll.flatten fun i =>
      [Step.comma].intercalate ((parts i).map (· 0 0)) := by
  induction hparts with
  | nil => exact framed_nil
  | cons hfirst hrest ih =>
    cases hrest with
    | nil => simpa [List.intercalate] using hfirst 0 0
    | cons =>
      simp only [List.map_cons, List.intercalate_cons_cons]
      exact ((hfirst 0 0).before plain_comma).append ih

theorem framed_function {name : String} (hname : grammar.lexicon.IsWord name.toList) :
    Framed contents placesAll.flatten fun i => function name (parts i) :=
  ((framed_intercalate hparts).behind (plain_call hname)).before plain_close

theorem framedIn_between {op : Operator} (hop : Plain (.word op.name)) :
    FramedIn contents placesAll.flatten fun i => between op (parts i) := by
  intro left right
  induction hparts generalizing left with
  | nil => exact framed_nil
  | cons hfirst hrest ih =>
    cases hrest with
    | nil => simpa [between] using hfirst left right
    | cons => exact (hfirst left op.leftPrec).append ((ih op.rightPrec).behind hop)

theorem framed_before {op : Operator} (hop : Plain (.word op.name)) :
    Framed contents placesAll.flatten fun i => before op (parts i) :=
  (framed_flatMap hparts fun h => h _ _).behind hop

theorem framedIn_behind {op : Operator} (hop : Plain (.word op.name)) :
    FramedIn contents placesAll.flatten fun i => behind op (parts i) := fun _ _ =>
  (framed_flatMap hparts fun h => h _ _).before hop

theorem framed_substring {name : String} (hname : grammar.lexicon.IsWord name.toList) :
    Framed contents placesAll.flatten fun i => substring name (parts i) := by
  have hfrom : Plain (.word "FROM") := plain_word ⟨_, splits_word (by decide)⟩
  have hfor : Plain (.word "FOR") := plain_word ⟨_, splits_word (by decide)⟩
  have hcall := plain_call hname
  cases hparts with
  | nil => exact (framed_nil.behind hcall).before plain_close
  | cons hsource hrest =>
    cases hrest with
    | nil => simpa [substring] using ((hsource 0 0).behind hcall).before plain_close
    | cons hstart hrest =>
      have hlengths := framed_flatMap (f := fun part => .word "FOR" :: part 0 0) hrest
        fun h => (h 0 0).behind hfor
      have hoperands := ((hsource 0 0).append ((hstart 0 0).behind hfrom)).append hlengths
      simpa [substring] using (hoperands.behind hcall).before plain_close

theorem framedIn_nullIndicator (d : Dialect) (hone : placesAll.length ≤ 1) :
    FramedIn contents placesAll.flatten fun i => nullIndicator d (parts i).head? := by
  cases hparts with
  | nil => exact fun _ _ => framed_plain (plain_word ⟨_, splits_word (by decide)⟩)
  | @cons places part rest _ hpart _ =>
    obtain rfl : rest = [] := List.eq_nil_of_length_eq_zero (by simpa using hone)
    rw [List.flatten_cons, List.flatten_nil, List.append_nil]
    simp only [List.head?_cons, nullIndicator]
    split
    · have hnull : Plain (.word "IS NULL") :=
        plain_words ["IS", "NULL"] (by decide) (by decide) (by decide)
      exact framedIn_wrap fun _ _ => (hpart _ _).before hnull
    · have hwhen : Plain (.word "CASE WHEN") :=
        plain_words ["CASE", "WHEN"] (by decide) (by decide) (by decide)
      have hend : Plain (.word "IS NULL THEN 1 ELSE 0 END") :=
        plain_words ["IS", "NULL", "THEN", "1", "ELSE", "0", "END"] (by decide) (by decide)
          (by decide)
      exact fun _ _ => ((hpart _ _).behind hwhen).before hend

end

/-! ## Trims -/

theorem isWord_trimFunction {name : String} (hname : grammar.lexicon.IsWord name.toList)
    (side : TrimFlag) : grammar.lexicon.IsWord (trimFunction name side).toList := by
  cases side with
  | both => exact hname
  | leading => exact (by decide : grammar.lexicon.IsWord "LTRIM".toList)
  | trailing => exact (by decide : grammar.lexicon.IsWord "RTRIM".toList)

section

variable {flagPlaces charsPlaces sourcePlaces : List Node.Place}
  {flagPart charsPart source : ι → Fragment}
  (hflagPart : FramedIn contents flagPlaces flagPart)
  (hcharsPart : FramedIn contents charsPlaces charsPart)
  (hsource : FramedIn contents sourcePlaces source)

include hsource

theorem framed_patternTrim (side : TrimFlag) (chars : List Char) :
    Framed contents sourcePlaces fun i => patternTrim side chars (source i) := by
  have hcall : Plain (.call "REGEXP_REPLACE") := plain_call (by decide)
  have hpattern := plain_quoteString (.ofList (trimPattern side chars))
  have hempty : Plain (.word "''") := plain_quoteString ""
  have htext := (((((hsource 0 0).behind hcall).before plain_comma).before hpattern).before
    plain_comma).before hempty
  simpa [patternTrim] using htext.before plain_close

include hflagPart hcharsPart

theorem framed_standardTrim {name : String} (hname : grammar.lexicon.IsWord name.toList) :
    Framed contents (flagPlaces ++ charsPlaces ++ sourcePlaces) fun i =>
      standardTrim name (flagPart i) (charsPart i) (source i) := by
  have hfrom : Plain (.word "FROM") := plain_word ⟨_, splits_word (by decide)⟩
  exact ((((hflagPart 0 0).behind (plain_call hname)).append (hcharsPart 0 0)).append
    ((hsource 0 0).behind hfrom)).before plain_close

theorem framed_trim (d : Dialect) {name : String} (hname : grammar.lexicon.IsWord name.toList)
    {flag chars : ι → Node} {side : TrimFlag} {given : Option (List Char)}
    (hflag : ∀ i, flagOf (flag i) = side) (hchars : ∀ i, charsOf? (chars i) = given) :
    Framed contents (pick (trimmedOperands d given) [flagPlaces, charsPlaces, sourcePlaces])
      fun i => trim d name (flag i) (chars i) (flagPart i) (charsPart i) (source i) := by
  have hstandard := framed_standardTrim hflagPart hcharsPart hsource hname
  have hside := isWord_trimFunction hname side
  have hblank := framed_function (.cons hsource .nil) hside
  have hgiven := framed_function (.cons hsource (.cons hcharsPart .nil)) hside
  have hall : pick [0, 1, 2] [flagPlaces, charsPlaces, sourcePlaces] =
      flagPlaces ++ charsPlaces ++ sourcePlaces := by simp [pick]
  simp only [trim, hflag, hchars, trimmedOperands]
  cases d.trimStyle with
  | standard =>
    rw [hall]
    exact hstandard
  | functionCall =>
    cases given with
    | none =>
      rw [hall]
      exact hstandard
    | some cs =>
      dsimp only
      split
      · exact hblank
      · simpa [pick] using framed_patternTrim hsource side cs
  | sourceThenChars =>
    cases given with
    | none => exact hgiven
    | some cs =>
      dsimp only
      split
      · exact hblank
      · exact hgiven

end

/-! ## Calls -/

/-- An operator whose name can stand wherever the name of an operator may. -/
structure Sayable (op : Operator) : Prop where
  name : Plain (.word op.name)
  called : isSign op = false → grammar.lexicon.IsWord op.name.toList

theorem sayable_of_mem {op : Operator} (hop : op ∈ Catalog.all) : Sayable op where
  name := plain_word (splits_operatorName hop)
  called := by
    have hcalled : ∀ op ∈ Catalog.all, isSign op = false →
        grammar.lexicon.IsWord op.name.toList := by decide
    exact hcalled op hop

theorem sayable_piFunction : Sayable Dialect.piFunction where
  name := plain_word ⟨_, splits_word (by decide)⟩
  called _ := by decide

section

variable (d : Dialect) {op : Operator} (hop : Sayable op)
  {placesAll : List (List Node.Place)} {parts : ι → List Fragment}
  (hparts : FramedAll contents placesAll parts)
  (hone : op.form = .nullIndicator → placesAll.length ≤ 1)

include hop hparts hone

theorem framedIn_byForm :
    FramedIn contents placesAll.flatten fun i => byForm d op (parts i) := by
  have hfunction (hsign : isSign op = false) :
      FramedIn contents placesAll.flatten fun i _ _ => function op.name (parts i) :=
    fun _ _ => framed_function hparts (hop.called hsign)
  unfold byForm
  cases hform : op.form with
  | function => exact hfunction (by simp [isSign, hform])
  | functionId =>
    cases hparts with
    | nil => exact fun _ _ => framed_plain hop.name
    | cons => exact hfunction (by simp [isSign, hform])
  | trim =>
    have hname := hop.called (by simp [isSign, hform])
    rcases hparts with _ | ⟨hflag, _ | ⟨hchars, _ | ⟨hsource, _ | _⟩⟩⟩
    case cons.cons.cons.nil =>
      intro left right
      simpa using framed_standardTrim hflag hchars hsource hname
    all_goals exact hfunction (by simp [isSign, hform])
  | substring =>
    exact fun _ _ => framed_substring hparts (hop.called (by simp [isSign, hform]))
  | nullIndicator => exact framedIn_nullIndicator hparts d (hone hform)
  | binary => exact framedIn_wrap (framedIn_between hparts hop.name)
  | prefixOp => exact framedIn_wrap fun _ _ => framed_before hparts hop.name
  | postfixOp => exact framedIn_wrap (framedIn_behind hparts hop.name)

theorem framedIn_spell (htrim : op.kind = .trim → isSign op = false) {as : List Node}
    (hcount : placesAll.length = as.length) {bs : ι → List Node}
    (hvaries : ∀ i, Node.VariesAll op as (bs i)) :
    FramedIn contents (pick (writtenOperands d op as) placesAll) fun i =>
      spell d op (bs i) (parts i) := by
  -- Only a trim looks at the operands themselves, at the side and the characters.
  by_cases hthree : op.kind = .trim ∧ as.length = 3
  · obtain ⟨hkind, hlength⟩ := hthree
    obtain ⟨flag, chars, source, rfl⟩ := List.length_eq_three.1 hlength
    choose flag' chars' source' hbs hflag hchars using fun i => (hvaries i).trim hkind
    have hwritten : writtenOperands d op [flag, chars, source] =
        trimmedOperands d (charsOf? chars) := by simp [writtenOperands, hkind]
    rw [hwritten]
    simp only [spell, hkind, hbs]
    rcases hparts with _ | ⟨hflagPart, _ | ⟨hcharsPart, _ | ⟨hsource, _ | _⟩⟩⟩
    case cons.cons.cons.nil =>
      exact fun _ _ => framed_trim hflagPart hcharsPart hsource d (hop.called (htrim hkind)) hflag
        hchars
    all_goals simp at hcount
  · have hno : op.kind = .trim → as.length ≠ 3 := fun h h3 => hthree ⟨h, h3⟩
    have hspell (i : ι) : spell d op (bs i) (parts i) =
        if op.kind = .otherFunction ∧ op.form = .substring ∧ d.has .substringFromFor = false then
          fun _ _ => function op.name (parts i)
        else byForm d op (parts i) := by
      refine spell_of_no_trim ?_ (bs i)
      rwa [hparts.length, hcount]
    simp only [hspell]
    rw [writtenOperands_of_no_trim d hno, ← hcount, pick_range]
    split
    · next h =>
      exact fun _ _ => framed_function hparts (hop.called (by simp [isSign, h.2.1]))
    · exact framedIn_byForm d hop hparts hone

end

end

/-! ## Expressions -/

/-- Operands are written as they are, with their strings at places in the call. -/
theorem framedAll_operands {d : Dialect} {ι : Type} {op : Operator} (type : SqlType)
    {as : List Node} {bs : ι → List Node} (hvaries : ∀ i, Node.VariesAll op as (bs i))
    (h : ∀ a ∈ as, ∀ b : ι → Node, (∀ i, a.Varies (b i)) →
      FramedIn (fun i => (b i).stringAt) (a.strings d) fun i => render d (b i)) :
    FramedAll (fun i => (Node.call op (bs i) type).stringAt) (Node.nested (Node.stringsAll d as))
      fun i => (bs i).map (render d) := by
  refine framedAll_of_getElem (fun i => ?_) fun j places hj => ?_
  · rw [List.length_map, Node.length_nested, (hvaries i).length]
  · rw [Node.getElem?_nested, Option.map_eq_some_iff] at hj
    obtain ⟨a, ha, rfl⟩ := hj
    have hoperand (i : ι) : ∃ b, (bs i)[j]? = some b :=
      ⟨_, List.getElem?_eq_getElem ((hvaries i).length ▸ (List.getElem?_eq_some_iff.1 ha).1)⟩
    choose b hb using hoperand
    have hframed := h a (List.mem_of_getElem? ha) b fun i =>
      (hvaries i).operands j a (b i) ha (hb i)
    have hcontents (i : ι) : (b i).stringAt =
        fun place => (Node.call op (bs i) type).stringAt (j :: place) := by
      funext place
      rw [Node.stringAt, hb, Option.bind_some]
    refine ⟨fun i => render d (b i), fun i => by rw [List.getElem?_map, hb]; rfl, fun l r => ?_⟩
    simp only [hcontents] at hframed
    exact (hframed l r).under

theorem framedIn_call {d : Dialect} (hd : Ordinary d) {op : Operator} {as : List Node}
    (hop : op ∈ Catalog.all) (hcount : op.arity.admits as.length = true) (type : SqlType)
    {ι : Type} {contents : ι → Node.Place → Option String} {bs : ι → List Node}
    (hvaries : ∀ i, Node.VariesAll op as (bs i))
    (hparts : FramedAll contents (Node.nested (Node.stringsAll d as))
      fun i => (bs i).map (render d)) :
    FramedIn contents ((Node.call op as type).strings d) fun i =>
      render d (.call op (bs i) type) := by
  have hrender (i : ι) : render d (.call op (bs i) type) =
      spell d (d.resolve op as.length) (bs i) ((bs i).map (render d)) := by
    rw [render, renderAll_eq_map, (hvaries i).length]
  have hcatalog : ∀ op ∈ Catalog.all, (op.kind = .trim → isSign op = false) ∧
      (op.form = .nullIndicator → op.arity = .one) ∧
      (op.id = Catalog.pi.id → op.kind ≠ .trim) := by decide
  obtain ⟨htrim, hindicator, hpi⟩ := hcatalog op hop
  have hlength := Node.length_nested d as
  simp only [hrender]
  rw [Node.strings]
  rcases hd.resolve_eq_or op as.length with hsame | ⟨hid, hother⟩
  · rw [hsame]
    refine framedIn_spell d (sayable_of_mem hop) hparts (fun hform => ?_) htrim hlength hvaries
    rw [hindicator hform] at hcount
    obtain ⟨a, rfl⟩ := Arity.eq_singleton_of_admits_one hcount
    exact Nat.le_of_eq hlength
  · have hkind : Dialect.piFunction.kind ≠ .trim := by decide
    have hform : Dialect.piFunction.form ≠ .nullIndicator := by decide
    have hwritten : writtenOperands d op as = writtenOperands d Dialect.piFunction as := by
      rw [writtenOperands_of_no_trim d (absurd · (hpi hid)),
        writtenOperands_of_no_trim d (absurd · hkind)]
    rw [hother, hwritten]
    exact framedIn_spell d sayable_piFunction hparts (absurd · hform) (absurd · hkind) hlength
      fun i => ⟨(hvaries i).length, (hvaries i).operands, (absurd · hkind)⟩

theorem framedIn_render {d : Dialect} (hd : Ordinary d) {m : Node}
    (hm : m.Everywhere Node.Admitted) {ι : Type} {ns : ι → Node} (h : ∀ i, m.Varies (ns i)) :
    FramedIn (fun i => (ns i).stringAt) (m.strings d) fun i => render d (ns i) := by
  induction hm generalizing ι with
  | @intro m hadmitted _ ih =>
    cases m with
    | literal v type =>
      by_cases hv : ∃ s, v = .string s
      · obtain ⟨s, rfl⟩ := hv
        choose t ht using fun i => (h i).of_string
        obtain rfl : ns = fun i => .literal (.string (t i)) type := funext ht
        exact fun _ _ => framed_stringText (fun _ => rfl) type.name
      · have hv : ∀ s, v ≠ .string s := fun s hs => hv ⟨s, hs⟩
        obtain rfl : ns = fun _ => .literal v type := funext fun i => (h i).of_literal hv
        have hnone : (Node.literal v type).strings d = [] := by
          cases v <;> first | rfl | exact absurd rfl (hv _)
        rw [hnone]
        exact fun _ _ => framed_plain (plain_word (splits_literalText v type))
    | input index name type =>
      obtain rfl : ns = fun _ => .input index name type := funext fun i => (h i).of_input
      exact fun _ _ => framed_plain (plain_word (splits_inputText hd.quote index name))
    | call op as type =>
      choose bs hbs hvaries using fun i => (h i).of_call
      obtain rfl : ns = fun i => .call op (bs i) type := funext hbs
      exact framedIn_call hd hadmitted.1 hadmitted.2 type hvaries
        (framedAll_operands type hvaries fun a ha _ hb => ih a ha hb)

theorem fits_of_framed {d : Dialect} {ι : Type} {ns : ι → Node} {places : List Node.Place}
    (h : FramedIn (fun i => (ns i).stringAt) places fun i => render d (ns i)) (left right : Nat) :
    ∃ frame : List Piece, frame.filterMap Piece.place? = places ∧
      ∀ i, Fits d left right frame (ns i) := by
  obtain ⟨frame, hplaces, hframe⟩ := h left right
  refine ⟨frame, hplaces, fun i => ?_⟩
  obtain ⟨ts, hspelled, hfills⟩ := hframe i
  refine ⟨ts, ?_, hfills⟩
  rw [text, layout, String.toList_ofList]
  exact hspelled.tokens_layoutFrom (fun _ => rfl) false

/-- An expression is written in the tokens of one frame, whatever its strings hold: with a slot
for each string that is written, in a known order, and in the slot what that string holds. A string
that may differ has its slot, unless it stands where a trim names its side and the style may write
no side. -/
theorem tokens_text_of_varies {d : Dialect} (hd : Ordinary d) {m : Node}
    (hm : m.Everywhere Node.Admitted) :
    (m.strings d).Nodup ∧
      (∀ n, m.Varies n → ∀ place, m.stringAt place ≠ n.stringAt place →
        place ∈ m.strings d ∨ d.trimStyle ≠ .standard ∧ m.InTrimFlag place) ∧
      ∀ left right, ∃ frame : List Piece, frame.filterMap Piece.place? = m.strings d ∧
        Fits d left right frame m ∧ ∀ n, m.Varies n → Fits d left right frame n := by
  refine ⟨m.nodup_strings d, fun n h place => Node.mem_strings_of_ne d h, fun left right => ?_⟩
  have hrender : FramedIn (fun n : { n // m.Varies n } => n.1.stringAt) (m.strings d)
      fun n => render d n.1 := framedIn_render hd hm Subtype.property
  obtain ⟨frame, hplaces, hfits⟩ := fits_of_framed hrender left right
  exact ⟨frame, hplaces, hfits ⟨m, .refl m⟩, fun n h => hfits ⟨n, h⟩⟩

namespace Login

def trimmed (name : String) : Node :=
  .call Catalog.trim [.symbol .both, .string "-'", .string name] (.orNull .varchar)

def isUser (name : String) : Node :=
  .call Catalog.equals [trimmed name, .column 0 "user name" (.notNull .varchar)]
    (.orNull .boolean)

def isPassword (password : String) : Node :=
  .call Catalog.equals [.string password, .column 1 "password" (.notNull .varchar)]
    (.notNull .boolean)

def admits (name password : String) : Node :=
  .call Catalog.and [isUser name, isPassword password] (.orNull .boolean)

theorem varies (name password name' password' : String) :
    (admits name password).Varies (admits name' password') := by
  have htrimmed : (trimmed name).Varies (trimmed name') := by
    refine .call _ rfl ?_ fun _ => rfl
    simp only [List.zip_cons_cons, List.zip_nil_left, List.forall_mem_cons]
    exact ⟨.refl _, .refl _, .string _ _ _, List.forall_mem_nil _⟩
  have huser : (isUser name).Varies (isUser name') := by
    refine .call _ rfl ?_ fun h => absurd h (by decide)
    simp only [List.zip_cons_cons, List.zip_nil_left, List.forall_mem_cons]
    exact ⟨htrimmed, .refl _, List.forall_mem_nil _⟩
  have hpassword : (isPassword password).Varies (isPassword password') := by
    refine .call _ rfl ?_ fun h => absurd h (by decide)
    simp only [List.zip_cons_cons, List.zip_nil_left, List.forall_mem_cons]
    exact ⟨.string _ _ _, .refl _, List.forall_mem_nil _⟩
  refine .call _ rfl ?_ fun h => absurd h (by decide)
  simp only [List.zip_cons_cons, List.zip_nil_left, List.forall_mem_cons]
  exact ⟨huser, hpassword, List.forall_mem_nil _⟩

theorem ordinary_spark : Ordinary Dialect.spark where
  quote := .inr rfl
  overrides := by simp [Dialect.spark, Dialect.withPiFunction, Dialect.withOverride]

theorem admitted (name password : String) :
    (admits name password).Everywhere Node.Admitted := by
  have htrimmed : (trimmed name).Everywhere Node.Admitted := by
    simp only [trimmed, Node.symbol, Node.string, Node.everywhere_call, Node.everywhere_literal,
      List.forall_mem_cons]
    exact ⟨⟨by decide, rfl⟩, trivial, trivial, trivial, List.forall_mem_nil _⟩
  simp only [admits, isUser, isPassword, Node.string, Node.column, Node.everywhere_call,
    Node.everywhere_literal, Node.everywhere_input, List.forall_mem_cons]
  exact ⟨⟨by decide, rfl⟩, ⟨⟨by decide, rfl⟩, htrimmed, trivial, List.forall_mem_nil _⟩,
    ⟨⟨by decide, rfl⟩, trivial, trivial, List.forall_mem_nil _⟩, List.forall_mem_nil _⟩

/-- The name where the password was, and for a name what would be a condition outside the quotes.
The characters that are trimmed have no slot. -/
theorem tokens_text_of_admits :
    (Ordinary Dialect.spark ∧ (admits "ada" "lace").Everywhere Node.Admitted ∧
      (admits "ada" "lace").Varies (admits "' OR '1' = '1" "ada")) ∧
    ∃ frame : List Piece, frame.filterMap Piece.place? = [[0, 0, 2], [1, 0]] ∧
      Fits Dialect.spark 0 0 frame (admits "ada" "lace") ∧
      Fits Dialect.spark 0 0 frame (admits "' OR '1' = '1" "ada") := by
  have hvaries := varies "ada" "lace" "' OR '1' = '1" "ada"
  obtain ⟨-, -, hframe⟩ := tokens_text_of_varies ordinary_spark (admitted "ada" "lace")
  obtain ⟨frame, hplaces, hbefore, hafter⟩ := hframe 0 0
  have hstrings : (admits "ada" "lace").strings Dialect.spark = [[0, 0, 2], [1, 0]] := by decide
  exact ⟨⟨ordinary_spark, admitted "ada" "lace", hvaries⟩, frame, hplaces.trans hstrings, hbefore,
    hafter _ hvaries⟩

example : text Dialect.spark (admits "' OR '1' = '1" "ada") =
    "REGEXP_REPLACE(''' OR ''1'' = ''1', '^(\\-'')*|(\\-'')*$', '') = `user name` AND " ++
      "'ada' = password" := by
  decide

end Login

end Sql.Standard

end RowExpr
