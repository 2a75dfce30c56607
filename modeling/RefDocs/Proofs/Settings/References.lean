import Mathlib.Data.List.Infix
import RefDocs.Proofs.Outcome
import RefDocs.Proofs.Text.Cutting
import RefDocs.Settings.Template

/-!
# References in templates

A template is read as a sequence of tokens: references in braces, bare references, double dollar
signs, and what stands for itself.  Its text with the variables filled in is that of its tokens, one
by one, and the first reference without a value is the failure.
-/

namespace RefDocs
namespace Template

/-- A part of a template. -/
inductive Token where
  /-- Characters that stand for themselves. -/
  | plain (chars : List Char)
  /-- Two dollar signs. -/
  | dollars
  /-- A reference without braces. -/
  | bare (name : List Char)
  /-- A reference in braces, with a default or without. -/
  | braced (name : List Char) (default? : Option (List Char))
  deriving DecidableEq, Repr

/-- What is written for a token. -/
def Token.source : Token → List Char
  | .plain chars => chars
  | .dollars => ['$', '$']
  | .bare name => '$' :: name
  | .braced name none => '$' :: '\x7b' :: (name ++ ['\x7d'])
  | .braced name (some default) => '$' :: '\x7b' :: (name ++ ':' :: '-' :: default ++ ['\x7d'])

/-- What stands between braces is a name as a whole: it does not go on with a default. -/
def IsWholeName (name : List Char) : Prop :=
  [':', '-'] <+: name ∨ ¬ [':', '-'] <:+: name

/-- A list of characters is read as tokens. -/
inductive Reads : List Char → List Token → Prop where
  | nil : Reads [] []
  /-- A character other than a dollar sign. -/
  | plain {char : Char} {rest : List Char} {tokens : List Token} (char_ne : char ≠ '$')
      (others : Reads rest tokens) : Reads (char :: rest) (.plain [char] :: tokens)
  /-- A dollar sign that begins nothing. -/
  | lone {rest : List Char} {tokens : List Token}
      (begins_nothing : ∀ next ∈ rest.head?, next ∉ ['$', '\x7b'] ∧ isNameChar next = false)
      (others : Reads rest tokens) : Reads ('$' :: rest) (.plain ['$'] :: tokens)
  /-- A dollar sign and a brace that is not closed. -/
  | unclosed {rest : List Char} {tokens : List Token} (not_closed : '\x7d' ∉ rest)
      (others : Reads rest tokens) : Reads ('$' :: '\x7b' :: rest) (.plain ['$', '\x7b'] :: tokens)
  | dollars {rest : List Char} {tokens : List Token} (others : Reads rest tokens) :
      Reads ('$' :: '$' :: rest) (.dollars :: tokens)
  /-- A dollar sign and as much of a name as follows. -/
  | bare {name rest : List Char} {tokens : List Token} (name_ne : name ≠ [])
      (named : ∀ char ∈ name, isNameChar char = true)
      (ends : ∀ next ∈ rest.head?, isNameChar next = false) (others : Reads rest tokens) :
      Reads ('$' :: (name ++ rest)) (.bare name :: tokens)
  /-- A name in braces. -/
  | braced {name rest : List Char} {tokens : List Token} (whole : IsWholeName name)
      (first_brace : '\x7d' ∉ name) (others : Reads rest tokens) :
      Reads ('$' :: '\x7b' :: (name ++ '\x7d' :: rest)) (.braced name none :: tokens)
  /-- A name in braces with a default, up to which it goes on as little as possible. -/
  | defaulted {name default rest : List Char} {tokens : List Token} (name_ne : name ≠ [])
      (undivided : ¬ [':', '-'] <:+: name) (first_brace : '\x7d' ∉ name ++ default)
      (others : Reads rest tokens) :
      Reads ('$' :: '\x7b' :: ((name ++ ':' :: '-' :: default) ++ '\x7d' :: rest))
        (.braced name (some default) :: tokens)

/-- What a template is made of is what is written for its tokens. -/
theorem Reads.flatMap_source {chars : List Char} {tokens : List Token}
    (reads : Reads chars tokens) : tokens.flatMap Token.source = chars := by
  induction reads with
  | nil => rfl
  | plain _ _ ih | lone _ _ ih | unclosed _ _ ih | dollars _ ih | bare _ _ _ _ ih
  | braced _ _ _ ih | defaulted _ _ _ _ ih => simp [Token.source, ih]

/-! ## Pieces -/

theorem cutDefault?_cons (char : Char) (rest : List Char) :
    cutDefault? (char :: rest) =
      if [':', '-'] <+: char :: rest then some ([], rest.tail)
      else (cutDefault? rest).map fun (name, default) => (char :: name, default) := by
  rw [cutDefault?.eq_def]
  split
  · rename_i others chars_eq
    obtain ⟨rfl, rfl⟩ := List.cons.inj chars_eq
    rw [if_pos ⟨others, rfl⟩, List.tail_cons]
  · rename_i first others not_divided chars_eq
    obtain ⟨rfl, rfl⟩ := List.cons.inj chars_eq
    rw [if_neg]
    rintro ⟨back, back_eq⟩
    obtain ⟨first_eq, others_eq⟩ := List.cons.inj back_eq
    exact not_divided back first_eq.symm others_eq.symm
  · contradiction

theorem cutDefault?_eq_some_iff {chars name default : List Char} :
    cutDefault? chars = some (name, default) ↔
      chars = name ++ ':' :: '-' :: default ∧ ¬ [':', '-'] <:+: name := by
  induction chars generalizing name with
  | nil => simp [cutDefault?]
  | cons char rest ih =>
      rw [cutDefault?_cons]
      split
      · rename_i divided
        obtain ⟨back, back_eq⟩ := divided
        obtain ⟨rfl, rfl⟩ := List.cons.inj back_eq
        constructor
        · rintro ⟨⟩
          exact ⟨rfl, by simp⟩
        · rintro ⟨chars_eq, undivided⟩
          match name with
          | [] => simpa using chars_eq
          | [_] => simp at chars_eq
          | first :: second :: more =>
              simp only [List.cons_append, List.cons.injEq] at chars_eq
              obtain ⟨rfl, rfl, -⟩ := chars_eq
              exact absurd ⟨[], more, rfl⟩ undivided
      · rename_i not_divided
        rw [Option.map_eq_some_iff]
        constructor
        · rintro ⟨⟨name', default'⟩, cut, pair_eq⟩
          obtain ⟨rfl, rfl⟩ := Prod.mk.inj pair_eq
          obtain ⟨rfl, undivided⟩ := ih.mp cut
          refine ⟨rfl, fun divided => ?_⟩
          rcases List.infix_cons_iff.mp divided with first | later
          · exact not_divided (first.trans ⟨_, rfl⟩)
          · exact undivided later
        · rintro ⟨chars_eq, undivided⟩
          cases name with
          | nil => exact absurd ⟨default, chars_eq.symm⟩ not_divided
          | cons first more =>
              obtain ⟨rfl, rest_eq⟩ := List.cons.inj chars_eq
              have more_undivided : ¬ [':', '-'] <:+: more := fun divided =>
                undivided (List.infix_cons divided)
              exact ⟨(more, default), ih.mpr ⟨rest_eq, more_undivided⟩, rfl⟩

theorem cutDefault?_eq_none_iff {chars : List Char} :
    cutDefault? chars = none ↔ ¬ [':', '-'] <:+: chars := by
  induction chars with
  | nil => simp [cutDefault?]
  | cons char rest ih =>
      rw [cutDefault?_cons, List.infix_cons_iff, not_or, ← ih]
      split
      · simp [*]
      · simp [*]

/-- The piece that a token is taken for. -/
def Token.piece : Token → Piece
  | .plain chars => .literal (String.ofList chars)
  | .dollars => .literal "$"
  | .bare name => .variable (String.ofList name) none
  | .braced name default? => .variable (String.ofList name) (default?.map String.ofList)

theorem ofBraced_of_isWholeName {name : List Char} (whole : IsWholeName name) :
    Piece.ofBraced name = .variable (String.ofList name) none := by
  rcases whole with ⟨back, rfl⟩ | undivided
  · rfl
  · rw [Piece.ofBraced, cutDefault?_eq_none_iff.mpr undivided]

theorem ofBraced_defaulted {name default : List Char} (name_ne : name ≠ [])
    (undivided : ¬ [':', '-'] <:+: name) :
    Piece.ofBraced (name ++ ':' :: '-' :: default) =
      .variable (String.ofList name) (some (String.ofList default)) := by
  obtain ⟨first, more, rfl⟩ := List.exists_cons_of_ne_nil name_ne
  rw [Piece.ofBraced, cutDefault?_eq_some_iff.mpr ⟨rfl, undivided⟩]

/-- What stands between braces is a whole name, or a name and a default. -/
theorem isWholeName_or_defaulted (inside : List Char) :
    IsWholeName inside ∨ ∃ name default, name ≠ [] ∧ ¬ [':', '-'] <:+: name ∧
      inside = name ++ ':' :: '-' :: default := by
  cases cut : cutDefault? inside with
  | none => exact .inl (.inr (cutDefault?_eq_none_iff.mp cut))
  | some parts =>
      obtain ⟨name, default⟩ := parts
      obtain ⟨inside_eq, undivided⟩ := cutDefault?_eq_some_iff.mp cut
      by_cases name_nil : name = []
      · exact .inl (.inl ⟨default, by rw [inside_eq, name_nil]; rfl⟩)
      · exact .inr ⟨name, default, name_nil, undivided, inside_eq⟩

/-- Characters that belong to the piece before are passed over. -/
theorem pieces_behind (front rest : List Char) :
    pieces front.length (front ++ rest) = pieces 0 rest := by
  induction front with
  | nil => rfl
  | cons char front ih => rw [List.length_cons, List.cons_append, pieces.eq_2, ih]

theorem pieces_braced {inside : List Char} (first_brace : '\x7d' ∉ inside) (rest : List Char) :
    pieces 0 ('$' :: '\x7b' :: (inside ++ '\x7d' :: rest)) =
      Piece.ofBraced inside :: pieces 0 rest := by
  have brace_free : ∀ char ∈ inside, (char != '\x7d') = true := by
    intro char char_mem
    rw [bne_iff_ne]
    rintro rfl
    exact first_brace char_mem
  have taken_eq : (inside ++ '\x7d' :: rest).takeWhile (· != '\x7d') = inside := by
    rw [List.takeWhile_append_of_pos brace_free, List.takeWhile_cons_of_neg (by simp),
      List.append_nil]
  have behind := pieces_behind ('\x7b' :: (inside ++ ['\x7d'])) rest
  rw [pieces.eq_3, if_pos (by simp), taken_eq]
  simpa using behind

theorem not_mem_of_isNameChar {char : Char} (named : isNameChar char = true) :
    char ∉ ['$', '\x7b'] := by
  intro char_mem
  simp only [List.mem_cons, List.not_mem_nil, or_false] at char_mem
  rcases char_mem with rfl | rfl
  · exact absurd named (by decide +kernel)
  · exact absurd named (by decide +kernel)

/-- A dollar sign and what does not start with a brace or another one. -/
theorem pieces_dollar {rest : List Char} (unmarked : ∀ next ∈ rest.head?, next ∉ ['$', '\x7b']) :
    pieces 0 ('$' :: rest) =
      match rest.takeWhile isNameChar with
      | [] => .literal "$" :: pieces 0 rest
      | name => .variable (String.ofList name) none :: pieces name.length rest := by
  apply pieces.eq_5
  · rintro inside rfl
    exact unmarked '\x7b' rfl (by simp)
  · rintro tail rfl
    exact unmarked '$' rfl (by simp)

theorem takeWhile_head?_eq_nil {test : Char → Bool} {rest : List Char}
    (ends : ∀ next ∈ rest.head?, test next = false) : rest.takeWhile test = [] := by
  cases rest with
  | nil => rfl
  | cons next others => rw [List.takeWhile_cons_of_neg (by simp [ends next rfl])]

theorem Reads.pieces_eq {chars : List Char} {tokens : List Token} (reads : Reads chars tokens) :
    pieces 0 chars = tokens.map Token.piece := by
  induction reads with
  | nil => rfl
  | plain char_ne _ ih =>
      rw [pieces.eq_6 _ _ char_ne, ih]
      rfl
  | lone begins_nothing _ ih =>
      rw [pieces_dollar fun next next_mem => (begins_nothing next next_mem).1,
        takeWhile_head?_eq_nil fun next next_mem => (begins_nothing next next_mem).2, ih]
      rfl
  | unclosed not_closed _ ih =>
      rw [pieces.eq_3, if_neg (by simpa using not_closed), pieces.eq_2, ih]
      rfl
  | dollars _ ih =>
      rw [pieces.eq_4, pieces.eq_2, ih]
      rfl
  | @bare name rest _ name_ne named ends _ ih =>
      have unmarked : ∀ next ∈ (name ++ rest).head?, next ∉ ['$', '\x7b'] := by
        intro next next_mem
        rw [List.head?_append_of_ne_nil _ name_ne] at next_mem
        exact not_mem_of_isNameChar (named next (List.mem_of_mem_head? next_mem))
      have taken_eq : (name ++ rest).takeWhile isNameChar = name := by
        rw [List.takeWhile_append_of_pos named, takeWhile_head?_eq_nil ends, List.append_nil]
      obtain ⟨first, more, rfl⟩ := List.exists_cons_of_ne_nil name_ne
      rw [pieces_dollar unmarked, taken_eq]
      dsimp only
      rw [pieces_behind, ih]
      rfl
  | braced whole first_brace _ ih =>
      rw [pieces_braced first_brace, ofBraced_of_isWholeName whole, ih]
      rfl
  | @defaulted name default _ _ name_ne undivided first_brace _ ih =>
      have first_brace' : '\x7d' ∉ name ++ ':' :: '-' :: default := by
        simpa using first_brace
      rw [pieces_braced first_brace', ofBraced_defaulted name_ne undivided, ih]
      rfl

/-- Braces that are closed hold a name, or a name and a default. -/
theorem exists_reads_braced {inside rest : List Char} {tokens : List Token}
    (first_brace : '\x7d' ∉ inside) (others : Reads rest tokens) :
    ∃ tokens, Reads ('$' :: '\x7b' :: (inside ++ '\x7d' :: rest)) tokens := by
  rcases isWholeName_or_defaulted inside with whole | ⟨name, default, name_ne, undivided, rfl⟩
  · exact ⟨_, .braced whole first_brace others⟩
  · exact ⟨_, .defaulted name_ne undivided (by simpa using first_brace) others⟩

/-- Behind a dollar sign in front of a character that begins no reference with braces, the rest is
read as it is, or without the name that it starts with. -/
theorem exists_reads_named {next : Char} {rest : List Char} (unmarked : next ∉ ['$', '\x7b'])
    (each : ∀ behind, behind <:+ next :: rest → ∃ tokens, Reads behind tokens) :
    ∃ tokens, Reads ('$' :: next :: rest) tokens := by
  by_cases named : isNameChar next = true
  · have split_eq := List.takeWhile_append_dropWhile (p := isNameChar) (l := next :: rest)
    obtain ⟨tokens, others⟩ := each _ (List.dropWhile_suffix isNameChar)
    rw [← split_eq]
    refine ⟨_, .bare ?_ ?_ ?_ others⟩
    · rw [List.takeWhile_cons_of_pos named]
      exact List.cons_ne_nil _ _
    · exact List.all_eq_true.mp List.all_takeWhile
    · intro behind behind_mem
      have stops := List.head?_dropWhile_not isNameChar (next :: rest)
      rwa [Option.mem_def.mp behind_mem] at stops
  · obtain ⟨tokens, others⟩ := each _ (List.suffix_refl _)
    refine ⟨_, .lone (fun first first_mem => ?_) others⟩
    obtain rfl : next = first := Option.some_inj.mp first_mem
    exact ⟨unmarked, Bool.eq_false_iff.mpr named⟩

/-- Every list of characters is read. -/
theorem exists_reads (chars : List Char) : ∃ tokens, Reads chars tokens := by
  induction size : chars.length using Nat.strong_induction_on generalizing chars with
  | _ size ih =>
      subst size
      cases chars with
      | nil => exact ⟨[], .nil⟩
      | cons char rest =>
          have each (behind : List Char) (inside : behind <:+ rest) :
              ∃ tokens, Reads behind tokens :=
            ih behind.length (Nat.lt_succ_of_le inside.length_le) behind rfl
          by_cases is_dollar : char = '$'
          · subst is_dollar
            cases rest with
            | nil => exact ⟨_, .lone (by simp) .nil⟩
            | cons next rest =>
                by_cases unmarked : next ∉ ['$', '\x7b']
                · exact exists_reads_named unmarked each
                · have marked : next = '$' ∨ next = '\x7b' := by simpa using not_not.mp unmarked
                  obtain ⟨tokens, others⟩ := each rest (List.suffix_cons next rest)
                  rcases marked with rfl | rfl
                  · exact ⟨_, .dollars others⟩
                  · by_cases closed : '\x7d' ∈ rest
                    · obtain ⟨inside, behind, rfl, first_brace⟩ :=
                        List.eq_append_cons_of_mem closed
                      obtain ⟨tokens, others⟩ :=
                        each behind ⟨'\x7b' :: (inside ++ ['\x7d']), by simp⟩
                      exact exists_reads_braced first_brace others
                    · exact ⟨_, .unclosed closed others⟩
          · obtain ⟨tokens, others⟩ := each rest (List.suffix_refl rest)
            exact ⟨_, .plain is_dollar others⟩

/-! ## Filling in -/

section

variable (environment : String → Option String)

/-- The value of a variable or its default; a name without either is the failure. -/
def valueOf (name : List Char) (default? : Option (List Char)) : Except String String :=
  let value? :=
    if isVariableName (String.ofList name) then environment (String.ofList name) else none
  match value? <|> default?.map String.ofList with
  | some text => .ok text
  | none => .error (String.ofList name)

/-- The text of a token. -/
def Token.fill : Token → Except String String
  | .plain chars => .ok (String.ofList chars)
  | .dollars => .ok "$"
  | .bare name => valueOf environment name none
  | .braced name default? => valueOf environment name default?

/-- The text of a token where references in braces are filled in and all else stays as it is. -/
def Token.fillBraced : Token → Except String String
  | .braced name default? => valueOf environment name default?
  | token => .ok (String.ofList token.source)

/-- The texts of tokens together; the first failure is that of the whole. -/
def joined (fill : Token → Except String String) (tokens : List Token) : Except String String :=
  (tokens.mapM fill).map String.join

theorem run_bind_eq {Failure α β : Type} (first : ExceptT Failure Id α)
    (next : α → ExceptT Failure Id β) :
    (first >>= next).run = Except.bind first.run fun value => (next value).run := by
  change ExceptT.bindCont next first.run = _
  cases first.run with
  | error failure => rfl
  | ok value => rfl

theorem run_fill_piece (token : Token) :
    (token.piece.fill (m := Id) environment).run = token.fill environment := by
  cases token with
  | plain chars | dollars => rfl
  | bare name | braced name default? =>
      rw [Token.piece, Token.fill, Piece.fill, valueOf]
      by_cases named : isVariableName (String.ofList name) = true
      · rw [if_pos named, if_pos named]
        rfl
      · rw [if_neg named, if_neg named]
        rfl

theorem run_mapM_fill (tokens : List Token) :
    ((tokens.map Token.piece).mapM (Piece.fill (m := Id) environment)).run =
      tokens.mapM (Token.fill environment) := by
  induction tokens with
  | nil => rfl
  | cons token rest ih =>
      rw [List.map_cons, List.mapM_cons, List.mapM_cons, run_bind_eq, run_fill_piece]
      refine congrArg _ (funext fun text => ?_)
      rw [run_bind_eq, ih]
      rfl

theorem Reads.run_expand_eq {text : String} {tokens : List Token}
    (reads : Reads text.toList tokens) :
    (expand (m := Id) environment text).run =
      if Text.contains "$\x7b" text then joined (Token.fill environment) tokens else .ok text := by
  rw [expand, reads.pieces_eq]
  split
  · rw [run_bind_eq, run_mapM_fill, joined]
    cases tokens.mapM (Token.fill environment) with
    | error name => rfl
    | ok texts => rfl
  · rfl

end

section

variable {fill fill' : Token → Except String String} {shown shown' : Token → String}
  {tokens : List Token}

theorem joined_eq_ok (each : ∀ token ∈ tokens, fill token = .ok (shown token)) :
    joined fill tokens = .ok (String.join (tokens.map shown)) := by
  have texts_eq : tokens.mapM fill = .ok (tokens.map shown) := by
    induction tokens with
    | nil => rfl
    | cons token rest ih =>
        rw [List.forall_mem_cons] at each
        rw [List.mapM_cons, each.1, ok_bind, ih each.2, ok_bind]
        rfl
  rw [joined, texts_eq]
  rfl

theorem joined_congr (each : ∀ token ∈ tokens, fill token = fill' token) :
    joined fill tokens = joined fill' tokens := by
  rw [joined, joined]
  congr 1
  induction tokens with
  | nil => rfl
  | cons token rest ih =>
      rw [List.forall_mem_cons] at each
      rw [List.mapM_cons, List.mapM_cons, each.1, ih each.2]

theorem length_join_le
    (shorter : ∀ token ∈ tokens, (shown token).length ≤ (shown' token).length) :
    (String.join (tokens.map shown)).length ≤ (String.join (tokens.map shown')).length := by
  induction tokens with
  | nil => exact Nat.le_refl _
  | cons token rest ih =>
      rw [List.forall_mem_cons] at shorter
      rw [List.map_cons, List.map_cons, String.join_cons, String.join_cons,
        String.length_append, String.length_append]
      exact Nat.add_le_add shorter.1 (ih shorter.2)

/-- Texts that are no longer than others, one by one, but as long together are each as long. -/
theorem length_eq_of_join_eq
    (shorter : ∀ token ∈ tokens, (shown token).length ≤ (shown' token).length)
    (join_eq : (String.join (tokens.map shown)).length =
      (String.join (tokens.map shown')).length) :
    ∀ token ∈ tokens, (shown token).length = (shown' token).length := by
  induction tokens with
  | nil => exact List.forall_mem_nil _
  | cons token rest ih =>
      rw [List.forall_mem_cons] at shorter ⊢
      rw [List.map_cons, List.map_cons, String.join_cons, String.join_cons,
        String.length_append, String.length_append] at join_eq
      have rest_le := length_join_le shorter.2
      have token_le := shorter.1
      exact ⟨by omega, ih shorter.2 (by omega)⟩

end

/-- A token that means something else than its source without being a reference in braces. -/
def Token.isUnbraced : Token → Bool
  | .dollars | .bare _ => true
  | .plain _ | .braced .. => false

/-- A token that is no reference in braces to a name that nothing can have. -/
def Token.isFillable : Token → Bool
  | .braced name none => isVariableName (String.ofList name)
  | _ => true

theorem Token.fill_eq_fillBraced {token : Token} (environment : String → Option String)
    (not_unbraced : token.isUnbraced = false) :
    token.fill environment = token.fillBraced environment := by
  cases token with
  | plain chars | braced name default? => rfl
  | dollars | bare name => cases not_unbraced

/-- A template without a brace behind a dollar sign has no reference in braces. -/
theorem Reads.braced_not_mem {text : String} {tokens : List Token}
    (reads : Reads text.toList tokens) (no_brace : Text.contains "$\x7b" text = false)
    (name : List Char) (default? : Option (List Char)) : .braced name default? ∉ tokens := by
  intro token_mem
  rw [← Bool.not_eq_true, Text.contains_eq_true_iff, ← reads.flatMap_source,
    List.flatMap_def] at no_brace
  refine no_brace (.trans ?_ (List.infix_of_mem_flatten (List.mem_map_of_mem token_mem)))
  cases default? with
  | none => exact ⟨[], name ++ ['\x7d'], rfl⟩
  | some default => exact ⟨[], name ++ ':' :: '-' :: default ++ ['\x7d'], rfl⟩

theorem isVariableName_of_named {name : List Char} (name_ne : name ≠ [])
    (named : ∀ char ∈ name, isNameChar char = true) :
    isVariableName (String.ofList name) = true := by
  have no_equals : '=' ∉ name := fun equals_mem =>
    absurd (named '=' equals_mem) (by decide +kernel)
  simp [isVariableName, name_ne, no_equals]

/-- A bare reference is to a name that a variable can have. -/
theorem Reads.isVariableName_of_bare_mem {chars name : List Char} {tokens : List Token}
    (reads : Reads chars tokens) (token_mem : .bare name ∈ tokens) :
    isVariableName (String.ofList name) = true := by
  induction reads with
  | nil => exact absurd token_mem List.not_mem_nil
  | bare name_ne named _ _ ih =>
      rcases List.mem_cons.mp token_mem with token_eq | later
      · obtain rfl := Token.bare.inj token_eq
        exact isVariableName_of_named name_ne named
      · exact ih later
  | plain _ _ ih | lone _ _ ih | unclosed _ _ ih | dollars _ ih | braced _ _ _ ih
  | defaulted _ _ _ _ ih => exact ih (by simpa using token_mem)

/-- Where every variable is set to nothing, a token has a text, which is shorter than what it has if
only references in braces are filled in exactly if it means something without braces. -/
theorem Reads.exists_fill_nothing {chars : List Char} {tokens : List Token} {token : Token}
    (reads : Reads chars tokens) (token_mem : token ∈ tokens) (fillable : token.isFillable = true) :
    ∃ text text', token.fill (fun _ => some "") = .ok text ∧
      token.fillBraced (fun _ => some "") = .ok text' ∧ text.length ≤ text'.length ∧
      (text.length = text'.length → token.isUnbraced = false) := by
  cases token with
  | plain chars => exact ⟨_, _, rfl, rfl, Nat.le_refl _, fun _ => rfl⟩
  | dollars => exact ⟨_, _, rfl, rfl, by decide, by decide⟩
  | bare name =>
      refine ⟨"", _, ?_, rfl, Nat.zero_le _, fun same_length => ?_⟩
      · rw [Token.fill, valueOf, if_pos (reads.isVariableName_of_bare_mem token_mem)]
        rfl
      · rw [Token.source, show "".length = 0 from rfl, String.length_ofList,
          List.length_cons] at same_length
        exact absurd same_length (Nat.zero_ne_add_one _)
  | braced name default? =>
      obtain ⟨text, filled⟩ : ∃ text, valueOf (fun _ => some "") name default? = .ok text := by
        rw [valueOf]
        by_cases named : isVariableName (String.ofList name) = true
        · rw [if_pos named]
          exact ⟨"", rfl⟩
        · rw [if_neg named]
          cases default? with
          | none => exact absurd fillable named
          | some default => exact ⟨_, rfl⟩
      exact ⟨text, text, filled, filled, Nat.le_refl _, fun _ => rfl⟩

/-- The text of a token, if it has one. -/
def Token.shown (fill : Token → Except String String) (token : Token) : String :=
  (fill token).toOption.getD ""

/-- If references in braces alone are filled in whatever variables are set, nothing else has a
meaning. -/
theorem Reads.isUnbraced_eq_false {chars : List Char} {tokens : List Token}
    (reads : Reads chars tokens) (fillable : ∀ token ∈ tokens, token.isFillable = true)
    (same : joined (Token.fill fun _ => some "") tokens =
      joined (Token.fillBraced fun _ => some "") tokens) :
    ∀ token ∈ tokens, token.isUnbraced = false := by
  have each (token : Token) (token_mem : token ∈ tokens) :
      token.fill (fun _ => some "") = .ok (token.shown (Token.fill fun _ => some "")) ∧
      token.fillBraced (fun _ => some "") = .ok (token.shown (Token.fillBraced fun _ => some "")) ∧
      (token.shown (Token.fill fun _ => some "")).length ≤
        (token.shown (Token.fillBraced fun _ => some "")).length ∧
      ((token.shown (Token.fill fun _ => some "")).length =
        (token.shown (Token.fillBraced fun _ => some "")).length → token.isUnbraced = false) := by
    obtain ⟨text, text', filled, filled', shorter, same_length⟩ :=
      reads.exists_fill_nothing token_mem (fillable token token_mem)
    rw [Token.shown, Token.shown, filled, filled']
    exact ⟨rfl, rfl, shorter, same_length⟩
  rw [joined_eq_ok fun token token_mem => (each token token_mem).1,
    joined_eq_ok fun token token_mem => (each token token_mem).2.1] at same
  intro token token_mem
  refine (each token token_mem).2.2.2 (length_eq_of_join_eq ?_ ?_ token token_mem)
  · exact fun token token_mem => (each token token_mem).2.2.1
  · exact congrArg String.length (Except.ok.inj same)

theorem join_map_ofList {Item : Type} (write : Item → List Char) (items : List Item) :
    String.join (items.map fun item => String.ofList (write item)) =
      String.ofList (items.flatMap write) := by
  induction items with
  | nil => rfl
  | cons item rest ih =>
      rw [List.map_cons, String.join_cons, ih, List.flatMap_cons, String.ofList_append]

/-- Without references in braces nothing is filled in. -/
theorem Reads.joined_fillBraced_eq {text : String} {tokens : List Token}
    (reads : Reads text.toList tokens)
    (not_braced : ∀ name default?, .braced name default? ∉ tokens)
    (environment : String → Option String) :
    joined (Token.fillBraced environment) tokens = .ok text := by
  have each : ∀ token ∈ tokens,
      token.fillBraced environment = .ok (String.ofList token.source) := by
    intro token token_mem
    cases token with
    | plain chars | dollars | bare name => rfl
    | braced name default? => exact absurd token_mem (not_braced name default?)
  rw [joined_eq_ok each, join_map_ofList, reads.flatMap_source, String.ofList_toList]

theorem Reads.run_expand_eq_braced {text : String} {tokens : List Token}
    (reads : Reads text.toList tokens)
    (unbraced_free :
      Text.contains "$\x7b" text = false ∨ ∀ token ∈ tokens, token.isUnbraced = false)
    (environment : String → Option String) :
    (expand (m := Id) environment text).run = joined (Token.fillBraced environment) tokens := by
  rw [reads.run_expand_eq]
  cases has_brace : Text.contains "$\x7b" text with
  | false =>
      rw [if_neg (by decide), reads.joined_fillBraced_eq (reads.braced_not_mem has_brace)]
  | true =>
      rw [has_brace, or_iff_right (by decide)] at unbraced_free
      rw [if_pos rfl]
      exact joined_congr fun token token_mem =>
        Token.fill_eq_fillBraced environment (unbraced_free token token_mem)

/-- A template is read as tokens.  With a brace behind a dollar sign, its text is that of its
tokens, bare references and double dollar signs included, and the first reference without a value or
default is the failure; any other template is its own text.  So references in braces alone are
filled in, and all else stays as it is, if there is no such brace or nothing means anything without
braces.  Where each reference in braces can have a value, it is so for all variables only then. -/
theorem exists_reads_and_expand_eq_braced_iff (text : String) :
    (∃ tokens, Reads text.toList tokens) ∧ ∀ tokens, Reads text.toList tokens →
      tokens.flatMap Token.source = text.toList ∧
      (∀ environment, (expand (m := Id) environment text).run =
        if Text.contains "$\x7b" text then joined (Token.fill environment) tokens
        else .ok text) ∧
      ((Text.contains "$\x7b" text = false ∨ ∀ token ∈ tokens, token.isUnbraced = false) →
        ∀ environment, (expand (m := Id) environment text).run =
          joined (Token.fillBraced environment) tokens) ∧
      ((∀ token ∈ tokens, token.isFillable = true) →
        (∀ environment, (expand (m := Id) environment text).run =
          joined (Token.fillBraced environment) tokens) →
        Text.contains "$\x7b" text = false ∨ ∀ token ∈ tokens, token.isUnbraced = false) := by
  refine ⟨exists_reads text.toList, fun tokens reads => ⟨reads.flatMap_source, ?_, ?_, ?_⟩⟩
  · exact fun environment => reads.run_expand_eq environment
  · exact fun unbraced_free environment => reads.run_expand_eq_braced unbraced_free environment
  · intro fillable same
    cases has_brace : Text.contains "$\x7b" text with
    | false => exact .inl rfl
    | true =>
        have same_emptied := same fun _ => some ""
        rw [reads.run_expand_eq, if_pos has_brace] at same_emptied
        exact .inr (reads.isUnbraced_eq_false fillable same_emptied)

/-- Variables with a site and its interface. -/
def siteVariables : String → Option String
  | "SITE" => some "site"
  | "API" => some "v2"
  | _ => none

/-- The tokens of references in braces, with and without a default. -/
def bracedTokens : List Token :=
  [.braced "SITE".toList none, .plain ['/'], .braced "PART".toList (some "api".toList)]

theorem expand_bracedTokens :
    Reads "$\x7bSITE\x7d/$\x7bPART:-api\x7d".toList bracedTokens ∧
      (∀ token ∈ bracedTokens, token.isUnbraced = false) ∧
      (expand (m := Id) siteVariables "$\x7bSITE\x7d/$\x7bPART:-api\x7d").run =
        .ok "site/api" := by
  have behind : Reads "/$\x7bPART:-api\x7d".toList
      [.plain ['/'], .braced "PART".toList (some "api".toList)] :=
    .plain (by decide) (@Reads.defaulted "PART".toList "api".toList [] []
      (by decide) (by decide) (by decide) .nil)
  have reads : Reads "$\x7bSITE\x7d/$\x7bPART:-api\x7d".toList bracedTokens :=
    @Reads.braced "SITE".toList _ _ (.inr (by decide)) (by decide) behind
  have unbraced_free : ∀ token ∈ bracedTokens, token.isUnbraced = false := by decide
  have expanded := ((exists_reads_and_expand_eq_braced_iff _).2 _ reads).2.2.1
    (.inr unbraced_free) siteVariables
  exact ⟨reads, unbraced_free, expanded.trans rfl⟩

/-- The tokens of a reference in braces and a bare one beside it. -/
def mixedTokens : List Token :=
  [.braced "SITE".toList none, .plain ['/'], .bare "API".toList]

/-- Beside a reference in braces a bare reference is filled in, and fails without a value. -/
theorem expand_mixedTokens :
    Reads "$\x7bSITE\x7d/$API".toList mixedTokens ∧
      joined (Token.fillBraced siteVariables) mixedTokens = .ok "site/$API" ∧
      (expand (m := Id) siteVariables "$\x7bSITE\x7d/$API").run = .ok "site/v2" ∧
      (expand (m := Id) siteVariables "$\x7bSITE\x7d/$PART").run = .error "PART" := by
  have named : "API".toList.all isNameChar = true := by decide +kernel
  have behind : Reads "/$API".toList [.plain ['/'], .bare "API".toList] :=
    .plain (by decide)
      (@Reads.bare "API".toList [] [] (by decide) (List.all_eq_true.mp named) (by simp) .nil)
  exact ⟨@Reads.braced "SITE".toList _ _ (.inr (by decide)) (by decide) behind, rfl, rfl, rfl⟩

end Template
end RefDocs
