import Phrasebook.Proofs.BuiltSpecs
import Phrasebook.Proofs.Settling
import Phrasebook.Proofs.SpelledWords

/-! Names in sources. Every route by which a name reaches a source ends in an identifier that is no keyword,
but for two: a class name that is given may be a keyword, and a key may hold characters of words that no
identifier takes. -/
namespace Phrasebook

open Text

namespace Accessor

/-! ### ASCII names -/

theorem keywordEnds : ∀ name ∈ keywords,
    name ≠ "" ∧ ¬ ['_'] <:+ name.toList ∧ ¬ "Messages".toList <:+ name.toList ∧
      ¬ "arg".toList <+: name.toList := by
  decide +kernel

/-! ### Methods -/

/-- What becomes a name when it is made an identifier. -/
def isNameable : List Char → Bool
  | [] => true
  | c :: rest => (if isDigit c then isNamePart c else isNameStart c) && rest.all isNamePart

theorem identifierSnoc (c : Char) (rest : List Char) :
    isIdentifier (c :: rest ++ ['_']) = isIdentifier (c :: rest) := by
  have mark : isNamePart '_' = true := by decide
  simp [isIdentifier, mark]

theorem identifierMade (name : List Char) : isIdentifier (makeIdentifier name) = isNameable name := by
  have kept (c : Char) (rest : List Char) :
      isIdentifier (if isKeyword (c :: rest) then c :: rest ++ ['_'] else c :: rest) =
        isIdentifier (c :: rest) := by
    split
    · exact identifierSnoc c rest
    · rfl
  cases name with
  | nil => decide +kernel
  | cons c rest =>
    have opening : isNameStart 'm' = true ∧ isNamePart 's' = true ∧ isNamePart 'g' = true ∧
        isNamePart '_' = true := by decide
    cases digit : isDigit c with
    | true =>
      have made : isIdentifier (makeIdentifier (c :: rest)) =
          isIdentifier ('m' :: ['s', 'g', '_'] ++ c :: rest) := by
        simpa [makeIdentifier, digit] using kept 'm' (['s', 'g', '_'] ++ c :: rest)
      rw [made]
      simp [isIdentifier, isNameable, digit, opening]
    | false =>
      have made : isIdentifier (makeIdentifier (c :: rest)) = isIdentifier (c :: rest) := by
        simpa [makeIdentifier, digit] using kept c rest
      rw [made]
      simp [isIdentifier, isNameable, digit]

theorem madeNoKeyword (name : List Char) : isKeyword (makeIdentifier name) = false := by
  have fresh (chars : List Char) :
      isKeyword (if isKeyword chars then chars ++ ['_'] else chars) = false := by
    split
    · refine Bool.eq_false_iff.mpr fun keyword => ?_
      have listed := List.contains_iff_mem.mp keyword
      have ends := (keywordEnds _ listed).2.1
      rw [String.toList_ofList] at ends
      exact ends (List.suffix_append chars ['_'])
    · rename_i other
      exact Bool.eq_false_iff.mpr other
  exact fresh _

theorem wordMember {text word : List Char} (mem : word ∈ wordsOf text) :
    word ≠ [] ∧ ∀ c ∈ word, c ∈ text ∧ isWordChar c = true ∧ c ≠ '_' := by
  obtain ⟨piece, filled⟩ := fieldMember.mp mem
  refine ⟨filled, fun c inside => ⟨pieceWithin piece inside, ?_⟩⟩
  have clean := piecesClean piece c inside
  simp only [Bool.or_eq_false_iff, decide_eq_false_iff_not, Bool.not_eq_false'] at clean
  exact ⟨clean.2, clean.1⟩

theorem keyWordMember {key delimiter word : List Char} (mem : word ∈ keyWords key delimiter) :
    word ≠ [] ∧ ∀ c ∈ word, c ∈ key ∧ isWordChar c = true := by
  obtain ⟨segment, listed, inside⟩ := List.mem_flatMap.mp mem
  obtain ⟨filled, chars⟩ := wordMember inside
  refine ⟨filled, fun c held => ⟨?_, (chars c held).2.1⟩⟩
  have within := (chars c held).1
  unfold pieces at listed
  split at listed
  · rwa [List.mem_singleton.mp listed] at within
  · exact piecesFromWithin listed within

theorem keySpelled (naming : Naming) (key delimiter : List Char) :
    keyWords key delimiter = [] ∨
      Spelled (keyWords key delimiter).flatten (joinWords naming (keyWords key delimiter)) := by
  by_cases none : keyWords key delimiter = []
  · exact .inl none
  · exact .inr (joinedSpelled none (fun word mem => (keyWordMember mem).1)
      fun word mem c inside => ((keyWordMember mem).2 c inside).2)

theorem startNameable {c : Char} (start : isNameStart c = true) (rest : List Char) :
    isNameable (c :: rest) = rest.all isNamePart := by
  rw [isNameable, startIsPart start, start, ite_self, Bool.true_and]

theorem Spelled.nameable {chars name : List Char} (spelled : Spelled chars name) :
    isNameable name = isNameable chars := by
  obtain @⟨c, piece, chars, name, first, rest⟩ := spelled
  cases first with
  | itself => rw [List.singleton_append, isNameable, isNameable, rest.parts]
  | image start named =>
    cases piece with
    | nil => contradiction
    | cons d more =>
      simp only [isIdentifier, Bool.and_eq_true] at named
      rw [List.cons_append, startNameable named.1, startNameable start, List.all_append, named.2,
        rest.parts, Bool.true_and]

theorem keyJoined (naming : Naming) (key delimiter : List Char) :
    isNameable (joinWords naming (keyWords key delimiter)) = isNameable (keyWords key delimiter).flatten := by
  rcases keySpelled naming key delimiter with none | spelled
  · rw [none]
    cases naming <;> rfl
  · exact spelled.nameable

theorem nameableExactly {chars : List Char} :
    isNameable chars = true ↔ (∀ c ∈ chars, isNamePart c = true) ∧
      ∀ c, chars.head? = some c → isDigit c = true ∨ isNameStart c = true := by
  cases chars with
  | nil => simp [isNameable]
  | cons c rest =>
    have starts : isNameStart c = true → isNamePart c = true := startIsPart
    simp only [isNameable, Bool.and_eq_true, List.all_eq_true, List.forall_mem_cons, List.head?_cons,
      Option.some.injEq, forall_eq']
    cases isDigit c with
    | true => simp
    | false =>
      simp only [Bool.false_eq_true, if_false, false_or]
      exact ⟨fun ⟨start, parts⟩ => ⟨⟨starts start, parts⟩, start⟩, fun ⟨⟨_, parts⟩, start⟩ => ⟨start, parts⟩⟩

/-- A method is never named by a keyword, and its name is an identifier exactly when the characters of its
key's words can stand in one and the first of them can open one or is a digit. -/
theorem methodNameLegal (key delimiter : String) (naming : Naming) :
    isKeyword (methodName key delimiter naming).toList = false ∧
      (isIdentifier (methodName key delimiter naming).toList = true ↔
        (∀ c ∈ (keyWords key.toList delimiter.toList).flatten, isNamePart c = true) ∧
          ∀ c, (keyWords key.toList delimiter.toList).flatten.head? = some c →
            isDigit c = true ∨ isNameStart c = true) := by
  rw [methodName, String.toList_ofList]
  refine ⟨madeNoKeyword _, ?_⟩
  rw [identifierMade, keyJoined, nameableExactly]

/-- A fraction is a word of its own, and no identifier. -/
theorem fractionKept :
    methodName "½" "." .camel = "½" ∧ isIdentifier (methodName "½" "." .camel).toList = false := by
  decide +kernel

/-! ### Parameters -/

/-- A name in ASCII that is no keyword. -/
structure IsPlainName (name : String) : Prop where
  shape : isAsciiName name.toList = true
  free : name ∉ keywords

theorem nameAppend {name more : List Char} (shape : isAsciiName name = true)
    (parts : ∀ c ∈ more, (isAsciiAlnum c || c = '_') = true) : isAsciiName (name ++ more) = true := by
  cases name with
  | nil => simp [isAsciiName] at shape
  | cons c rest =>
    simp only [isAsciiName, Bool.and_eq_true, List.all_eq_true] at shape
    simp only [List.cons_append, isAsciiName, shape.1, Bool.true_and, List.all_eq_true]
    exact List.forall_mem_append.mpr ⟨shape.2, parts⟩

theorem underscored {name : String} (shape : isAsciiName name.toList = true) : IsPlainName (name ++ "_") := by
  constructor
  · rw [String.toList_append]
    exact nameAppend shape (by simp)
  · intro listed
    refine (keywordEnds _ listed).2.1 ?_
    rw [String.toList_append]
    exact List.suffix_append name.toList ['_']

theorem freshPlain {taken : List String} {tries : Nat} {name : String} (plain : IsPlainName name) :
    IsPlainName (freshName taken tries name) := by
  induction tries generalizing name with
  | zero => exact plain
  | succ tries ih =>
    unfold freshName
    split
    · exact ih (underscored plain.shape)
    · exact plain

theorem parameterPlain {used : List String} {name : String} (shape : isAsciiName name.toList = true) :
    IsPlainName (parameterName used name) := by
  unfold parameterName
  refine freshPlain ?_
  split
  · exact underscored shape
  · rename_i free
    simp only [Bool.or_eq_true, List.contains_iff_mem, not_or] at free
    exact ⟨shape, free.1⟩

theorem namedPlain {used names : List String} (shapes : ∀ name ∈ names, isAsciiName name.toList = true) :
    ∀ p ∈ namedParameters used names, IsPlainName p.name := by
  induction names generalizing used with
  | nil => simp [namedParameters]
  | cons name rest ih =>
    obtain ⟨head, later⟩ := List.forall_mem_cons.mp shapes
    exact List.forall_mem_cons.mpr ⟨parameterPlain head, ih later⟩

end Accessor

/-! ### Targets -/

namespace Target

open Accessor Catalog.Directory Report

section

variable {tree : FileTree} {t : Target} {spec : Spec} {file : Option String}

end

end Target

end Phrasebook
