import Phrasebook.Proofs.Characters
import Phrasebook.Proofs.Collections

/-! The grammar of templates, apart from both of their readers. A template is a run of chunks:
characters, doubled braces, and fields that hold an index or a name. The reader of placeholders accepts
exactly what chunks spell. -/
namespace Phrasebook

open Text Number

def isBrace (c : Char) : Bool := c = '\x7b' || c = '\x7d'

def isIndexToken (token : List Char) : Bool := !token.isEmpty && token.all isAsciiDigit

def indexOfToken (digits : List Char) : Nat :=
  ofDigitValues 10 (digits.map fun c => c.toNat - '0'.toNat)

inductive Chunk where
  | char (c : Char) (plain : isBrace c = false)
  | brace (c : Char) (doubled : isBrace c = true)
  | index (digits : List Char) (shape : isIndexToken digits = true)
  | name (token : List Char) (shape : isAsciiName token = true)

namespace Chunk

def text : Chunk → List Char
  | char c _ => [c]
  | brace c _ => [c, c]
  | index digits _ => '\x7b' :: (digits ++ ['\x7d'])
  | name token _ => '\x7b' :: (token ++ ['\x7d'])

def spell (chunks : List Chunk) : List Char := chunks.flatMap text

def placeholder? : Chunk → Option Placeholder
  | index digits _ => some (.positional (indexOfToken digits))
  | name token _ => some (.named (String.ofList token))
  | _ => none

def fields (chunks : List Chunk) : List Placeholder := chunks.filterMap placeholder?

def isLong : Chunk → Bool
  | index digits _ => maxIntegerDigits < digits.length
  | _ => false

theorem namePartNoBrace {c : Char} (part : (isAsciiAlnum c || c = '_') = true) :
    isBrace c = false := by
  by_contra brace
  simp only [isBrace, Bool.not_eq_false, Bool.or_eq_true, decide_eq_true_eq] at brace
  rcases brace with rfl | rfl <;>
    simp [isAsciiAlnum, isAsciiLetter, isAsciiDigit] at part

theorem namePart {c : Char} {token : List Char} (shape : isAsciiName token = true) (mem : c ∈ token) :
    (isAsciiAlnum c || c = '_') = true := by
  cases token with
  | nil => simp at mem
  | cons first rest =>
    simp only [isAsciiName, Bool.and_eq_true, List.all_eq_true] at shape
    rcases List.mem_cons.mp mem with rfl | inside
    · have start := shape.1
      simp only [Bool.or_eq_true] at start ⊢
      exact start.imp_left fun letter => by simp [isAsciiAlnum, letter]
    · exact shape.2 c inside

theorem indexPart {digits : List Char} (shape : isIndexToken digits = true) {c : Char}
    (mem : c ∈ digits) : (isAsciiAlnum c || c = '_') = true := by
  simp only [isIndexToken, Bool.and_eq_true, List.all_eq_true] at shape
  simp [isAsciiAlnum, shape.2 c mem]

theorem indexNoBrace {digits : List Char} (shape : isIndexToken digits = true) :
    ∀ c ∈ digits, isBrace c = false :=
  fun _ mem => namePartNoBrace (indexPart shape mem)

theorem nameNoBrace {token : List Char} (shape : isAsciiName token = true) :
    ∀ c ∈ token, isBrace c = false :=
  fun _ mem => namePartNoBrace (namePart shape mem)

theorem notOpen {c : Char} (plain : isBrace c = false) : c ≠ '\x7b' := by
  rintro rfl
  simp [isBrace] at plain

theorem notClose {c : Char} (plain : isBrace c = false) : c ≠ '\x7d' := by
  rintro rfl
  simp [isBrace] at plain

end Chunk

namespace Piece

theorem scanClosed (start : Nat) {token : List Char} (bare : '\x7d' ∉ token) (read : List Char)
    (offset : Nat) (rest : List Char) :
    scan (.inside start read) offset (token ++ '\x7d' :: rest) =
      if '\x7b' ∈ read.reverse ++ token then
        [fault start ('\x7b' :: (read.reverse ++ token ++ ['\x7d']))]
      else
        field start (read.reverse ++ token) :: scan .outside (offset + token.length + 1) rest := by
  induction token generalizing read offset with
  | nil => simp [scan]
  | cons c token ih =>
    obtain ⟨other, later⟩ := not_or.mp (mt List.mem_cons.mpr bare)
    have step := ih later (c :: read) (offset + 1)
    have count : offset + 1 + token.length + 1 = offset + (c :: token).length + 1 := by
      simp only [List.length_cons]
      omega
    simpa only [List.cons_append, scan, Ne.symm other, if_false, List.reverse_cons, List.append_assoc,
      List.singleton_append, List.nil_append, count] using step

theorem scanUnclosed (start : Nat) {text : List Char} (bare : '\x7d' ∉ text) (read : List Char)
    (offset : Nat) :
    scan (.inside start read) offset text = [fault start ('\x7b' :: (read.reverse ++ text))] := by
  induction text generalizing read offset with
  | nil => simp [scan]
  | cons c text ih =>
    obtain ⟨other, later⟩ := not_or.mp (mt List.mem_cons.mpr bare)
    simp [scan, Ne.symm other, ih later]

theorem scanField {token : List Char} (filled : token ≠ []) (clean : ∀ c ∈ token, isBrace c = false)
    (offset : Nat) (rest : List Char) :
    scan .outside offset ('\x7b' :: (token ++ '\x7d' :: rest)) =
      field offset token :: scan .outside (offset + token.length + 2) rest := by
  cases token with
  | nil => contradiction
  | cons c token =>
    obtain ⟨plain, later⟩ := List.forall_mem_cons.mp clean
    have unclosed : '\x7d' ∉ token := fun mem => Chunk.notClose (later _ mem) rfl
    have unopened : '\x7b' ∉ [c].reverse ++ token := fun mem => Chunk.notOpen (clean _ mem) rfl
    have inside := scanClosed offset unclosed [c] (offset + 2) rest
    rw [if_neg unopened] at inside
    simp only [List.cons_append, scan, if_true, Chunk.notOpen plain, Chunk.notClose plain, if_false,
      inside, List.reverse_singleton, List.length_cons, List.nil_append]
    congr 2
    omega

end Piece

namespace Chunk

theorem indexFilled {digits : List Char} (shape : isIndexToken digits = true) : digits ≠ [] := by
  rintro rfl
  simp [isIndexToken] at shape

theorem nameFilled {token : List Char} (shape : isAsciiName token = true) : token ≠ [] := by
  rintro rfl
  simp [isAsciiName] at shape

theorem nameNoIndex {token : List Char} (shape : isAsciiName token = true) :
    isIndexToken token = false := by
  cases token with
  | nil => simp [isAsciiName] at shape
  | cons c rest =>
    simp only [isAsciiName, Bool.and_eq_true] at shape
    simp [isIndexToken, (nameStart shape.1).2]

theorem classifiedIndex {position digits} (shape : isIndexToken digits = true) :
    classify position digits =
      if maxIntegerDigits < digits.length then .error .longIndex
      else .ok (.positional (indexOfToken digits)) := by
  unfold isIndexToken at shape
  rw [classify, if_pos shape, indexOfToken]

theorem classifiedName {position token} (shape : isAsciiName token = true) :
    classify position token = .ok (.named (String.ofList token)) := by
  have other := nameNoIndex shape
  unfold isIndexToken at other
  rw [classify, if_neg (by simp [other]), if_pos shape]

theorem classifiedOther {position token} (noIndex : isIndexToken token = false)
    (noName : isAsciiName token = false) :
    classify position token =
      .error (.malformed (String.ofList ('\x7b' :: (token ++ ['\x7d']))) position) := by
  have fragment : "\x7b" ++ String.ofList token ++ "\x7d" =
      String.ofList ('\x7b' :: (token ++ ['\x7d'])) := by
    apply String.toList_inj.mp
    simp
  unfold isIndexToken at noIndex
  rw [classify, if_neg (by simp [noIndex]), if_neg (by simp [noName]), fragment]

theorem braceIs {c : Char} (doubled : isBrace c = true) : c = '\x7b' ∨ c = '\x7d' := by
  simpa [isBrace] using doubled

theorem mapNothing (found : Except TemplateFault (List Placeholder)) :
    found.map ([] ++ ·) = found := by
  cases found <;> rfl

theorem readChunk (chunk : Chunk) (short : chunk.isLong = false) (offset : Nat) (rest : List Char) :
    placeholders (Piece.scan .outside offset (chunk.text ++ rest)) =
      (placeholders (Piece.scan .outside (offset + chunk.text.length) rest)).map
        (chunk.placeholder?.toList ++ ·) := by
  cases chunk with
  | char c plain =>
    simp only [text, List.cons_append, List.nil_append, Piece.scan, notOpen plain, notClose plain,
      if_false, placeholders, List.length_singleton]
    exact (mapNothing _).symm
  | brace c doubled =>
    rcases braceIs doubled with rfl | rfl
    · exact (mapNothing _).symm
    · exact (mapNothing _).symm
  | index digits shape =>
    -- Only here does the length count: too long an index is no placeholder.
    have few : ¬ maxIntegerDigits < digits.length := by simpa [isLong] using short
    simp only [text, List.cons_append, List.append_assoc, List.nil_append]
    rw [Piece.scanField (indexFilled shape) (indexNoBrace shape), placeholders, classifiedIndex shape,
      if_neg few]
    simp [placeholder?, Nat.add_assoc]
  | name token shape =>
    simp only [text, List.cons_append, List.append_assoc, List.nil_append]
    rw [Piece.scanField (nameFilled shape) (nameNoBrace shape), placeholders, classifiedName shape]
    simp [placeholder?, Nat.add_assoc]

theorem readLong {chunk : Chunk} (long : chunk.isLong = true) (offset : Nat) (rest : List Char) :
    placeholders (Piece.scan .outside offset (chunk.text ++ rest)) = .error .longIndex := by
  cases chunk with
  | char | brace | name => contradiction
  | index digits shape =>
    have many : maxIntegerDigits < digits.length := by simpa [isLong] using long
    simp only [text, List.cons_append, List.append_assoc, List.nil_append]
    rw [Piece.scanField (indexFilled shape) (indexNoBrace shape), placeholders, classifiedIndex shape,
      if_pos many]

theorem fieldsCons (chunk : Chunk) (rest : List Chunk) :
    fields (chunk :: rest) = chunk.placeholder?.toList ++ fields rest := by
  cases found : chunk.placeholder? <;> simp [fields, found]

theorem readChunks {chunks : List Chunk} (short : ∀ chunk ∈ chunks, chunk.isLong = false)
    (offset : Nat) (rest : List Char) :
    placeholders (Piece.scan .outside offset (spell chunks ++ rest)) =
      (placeholders (Piece.scan .outside (offset + (spell chunks).length) rest)).map
        (fields chunks ++ ·) := by
  induction chunks generalizing offset with
  | nil => exact (mapNothing _).symm
  | cons chunk others ih =>
    obtain ⟨shortHead, shortRest⟩ := List.forall_mem_cons.mp short
    have spelled : spell (chunk :: others) = chunk.text ++ spell others := rfl
    rw [spelled, List.append_assoc, readChunk chunk shortHead, ih shortRest, List.length_append,
      Nat.add_assoc, fieldsCons]
    generalize placeholders (Piece.scan .outside _ rest) = found
    cases found with
    | error fault => rfl
    | ok later => simp [Except.map]

theorem spelledPlaceholders {chunks : List Chunk} (short : ∀ chunk ∈ chunks, chunk.isLong = false)
    (offset : Nat) :
    placeholders (Piece.scan .outside offset (spell chunks)) = .ok (fields chunks) := by
  have read := readChunks short offset []
  rw [List.append_nil] at read
  rw [read]
  simp [Piece.scan, placeholders, Except.map]

/-- How a template opens, with what that makes of the placeholders of the whole: a chunk that is read,
an index with too many digits, or a fault, which starts with a brace and is told at its own offset. -/
inductive Opening (offset : Nat) (template : List Char)
    (found : Except TemplateFault (List Placeholder)) : Prop
  | chunk (chunk : Chunk) (rest : List Char) (spelled : template = chunk.text ++ rest)
      (short : chunk.isLong = false)
      (same : found = (placeholders (Piece.scan .outside (offset + chunk.text.length) rest)).map
        (chunk.placeholder?.toList ++ ·))
  | long (chunk : Chunk) (rest : List Char) (spelled : template = chunk.text ++ rest)
      (long : chunk.isLong = true) (same : found = .error .longIndex)
  | fault (brace : Char) (fragment rest : List Char) (spelled : template = brace :: fragment ++ rest)
      (isOne : isBrace brace = true)
      (same : found = .error (.malformed (String.ofList (brace :: fragment)) (some offset)))

theorem chunkOpens (offset : Nat) (chunk : Chunk) (rest : List Char) :
    Opening offset (chunk.text ++ rest)
      (placeholders (Piece.scan .outside offset (chunk.text ++ rest))) := by
  cases length : chunk.isLong with
  | false => exact .chunk chunk rest rfl length (readChunk chunk length offset rest)
  | true => exact .long chunk rest rfl length (readLong length offset rest)

theorem fieldOpens (offset : Nat) {c : Char} {template : List Char} (noOpen : c ≠ '\x7b')
    (noClose : c ≠ '\x7d') :
    Opening offset ('\x7b' :: c :: template)
      (placeholders (Piece.scan .outside offset ('\x7b' :: c :: template))) := by
  have inside : Piece.scan .outside offset ('\x7b' :: c :: template) =
      Piece.scan (.inside offset [c]) (offset + 2) template := by
    simp only [Piece.scan, if_true, noOpen, noClose, if_false]
  by_cases closed : '\x7d' ∈ template
  · obtain ⟨token, rest, rfl, bare⟩ := List.eq_append_cons_of_mem closed
    have scanned := inside.trans (Piece.scanClosed offset bare [c] (offset + 2) rest)
    have field : '\x7b' :: c :: (token ++ '\x7d' :: rest) =
        '\x7b' :: (c :: token ++ ['\x7d']) ++ rest := by simp
    cases index : isIndexToken (c :: token) with
    | true => exact field ▸ chunkOpens offset (.index (c :: token) index) rest
    | false =>
      cases name : isAsciiName (c :: token) with
      | true => exact field ▸ chunkOpens offset (.name (c :: token) name) rest
      | false =>
        refine .fault '\x7b' (c :: token ++ ['\x7d']) rest field rfl ?_
        rw [scanned]
        split
        · rfl
        · have other := @classifiedOther (some offset) _ index name
          simp only [List.reverse_singleton, List.singleton_append, placeholders, other]
  · refine .fault '\x7b' (c :: template) [] (by simp) rfl ?_
    rw [inside, Piece.scanUnclosed offset closed]
    rfl

theorem opening (offset : Nat) {template : List Char} (filled : template ≠ []) :
    Opening offset template (placeholders (Piece.scan .outside offset template)) := by
  cases template with
  | nil => contradiction
  | cons c template =>
    cases brace : isBrace c with
    | false => exact chunkOpens offset (.char c brace) template
    | true =>
      rcases braceIs brace with rfl | rfl
      · cases template with
        | nil => exact .fault '\x7b' [] [] rfl rfl rfl
        | cons d template =>
          by_cases again : d = '\x7b'
          · subst again
            exact chunkOpens offset (.brace '\x7b' rfl) template
          · by_cases close : d = '\x7d'
            · subst close
              exact .fault '\x7b' ['\x7d'] template rfl rfl rfl
            · exact fieldOpens offset again close
      · cases template with
        | nil => exact .fault '\x7d' [] [] rfl rfl rfl
        | cons d template =>
          by_cases again : d = '\x7d'
          · subst again
            exact chunkOpens offset (.brace '\x7d' rfl) template
          · refine .fault '\x7d' [] (d :: template) rfl rfl ?_
            simp [Piece.scan, again, placeholders]

theorem textFilled (chunk : Chunk) : 0 < chunk.text.length := by
  cases chunk <;> simp [text]

/-- How far a template is read. The chunks before the end, or before what stops the reader, are all
short, and a fault is told at the place where they end. -/
inductive Reading (offset : Nat) (template : List Char)
    (found : Except TemplateFault (List Placeholder)) : Prop
  | accepted (chunks : List Chunk) (spelled : template = spell chunks)
      (short : ∀ chunk ∈ chunks, chunk.isLong = false) (same : found = .ok (fields chunks))
  | long (chunks : List Chunk) (next : Chunk) (rest : List Char)
      (spelled : template = spell chunks ++ (next.text ++ rest))
      (short : ∀ chunk ∈ chunks, chunk.isLong = false) (long : next.isLong = true)
      (same : found = .error .longIndex)
  | fault (chunks : List Chunk) (brace : Char) (fragment rest : List Char)
      (spelled : template = spell chunks ++ (brace :: fragment ++ rest))
      (short : ∀ chunk ∈ chunks, chunk.isLong = false) (isOne : isBrace brace = true)
      (same : found = .error
        (.malformed (String.ofList (brace :: fragment)) (some (offset + (spell chunks).length))))

theorem readingOn {chunk : Chunk} (short : chunk.isLong = false) {offset : Nat} {rest : List Char}
    {found : Except TemplateFault (List Placeholder)}
    (reads : Reading (offset + chunk.text.length) rest found) :
    Reading offset (chunk.text ++ rest) (found.map (chunk.placeholder?.toList ++ ·)) := by
  have spell (chunks : List Chunk) : spell (chunk :: chunks) = chunk.text ++ spell chunks := rfl
  cases reads with
  | accepted chunks spelled shortRest same =>
    refine .accepted (chunk :: chunks) ?_ (List.forall_mem_cons.mpr ⟨short, shortRest⟩) ?_
    · rw [spelled, spell]
    · rw [same, fieldsCons]
      rfl
  | long chunks next later spelled shortRest long same =>
    refine .long (chunk :: chunks) next later ?_ (List.forall_mem_cons.mpr ⟨short, shortRest⟩) long ?_
    · rw [spelled, spell, List.append_assoc]
    · rw [same]
      rfl
  | fault chunks brace fragment later spelled shortRest isOne same =>
    refine .fault (chunk :: chunks) brace fragment later ?_
      (List.forall_mem_cons.mpr ⟨short, shortRest⟩) isOne ?_
    · rw [spelled, spell, List.append_assoc]
    · rw [same, spell, List.length_append, Nat.add_assoc]
      rfl

theorem reading (offset : Nat) (template : List Char) :
    Reading offset template (placeholders (Piece.scan .outside offset template)) := by
  obtain ⟨size, bound⟩ : ∃ size, template.length ≤ size := ⟨_, Nat.le_refl _⟩
  -- By induction on the length: a chunk is never empty.
  induction size generalizing offset template with
  | zero =>
    obtain rfl : template = [] := by simpa using bound
    exact .accepted [] rfl (by simp) rfl
  | succ size ih =>
    cases template with
    | nil => exact .accepted [] rfl (by simp) rfl
    | cons c template =>
      cases opening offset (List.cons_ne_nil c template) with
      | long chunk rest spelled long same => exact .long [] chunk rest spelled (by simp) long same
      | fault brace fragment rest spelled isOne same =>
        exact .fault [] brace fragment rest spelled (by simp) isOne same
      | chunk chunk rest spelled short same =>
        have shorter : rest.length ≤ size := by
          have total := congrArg List.length spelled
          have filled := textFilled chunk
          simp only [List.length_cons, List.length_append] at total bound
          omega
        rw [same, spelled]
        exact readingOn short (ih _ rest shorter)

theorem acceptedChunks {offset : Nat} {template : List Char} {ps : List Placeholder}
    (ok : placeholders (Piece.scan .outside offset template) = .ok ps) :
    ∃ chunks, spell chunks = template ∧ (∀ chunk ∈ chunks, chunk.isLong = false) ∧
      fields chunks = ps := by
  cases reading offset template with
  | accepted chunks spelled short same =>
    exact ⟨chunks, spelled.symm, short, Except.ok.inj (same.symm.trans ok)⟩
  | long chunks next rest spelled short long same => cases ok.symm.trans same
  | fault chunks brace fragment rest spelled short isOne same => cases ok.symm.trans same

/-- After chunks that are read there stands an index with more digits than an integer may have. -/
def MeetsLongIndex (template : List Char) : Prop :=
  ∃ chunks digits rest, template = spell chunks ++ '\x7b' :: (digits ++ '\x7d' :: rest) ∧
    (∀ chunk ∈ chunks, chunk.isLong = false) ∧ isIndexToken digits = true ∧
    maxIntegerDigits < digits.length

theorem longIndexMet {offset : Nat} {template : List Char} :
    placeholders (Piece.scan .outside offset template) = .error .longIndex ↔
      MeetsLongIndex template := by
  constructor
  · intro broken
    cases reading offset template with
    | accepted chunks spelled short same => cases broken.symm.trans same
    | fault chunks brace fragment rest spelled short isOne same => cases broken.symm.trans same
    | long chunks next rest spelled short long same =>
      cases next with
      | char | brace | name => contradiction
      | index digits shape =>
        refine ⟨chunks, digits, rest, ?_, short, shape, by simpa [isLong] using long⟩
        simpa [text] using spelled
  · intro met
    obtain ⟨chunks, digits, rest, rfl, short, shape, many⟩ := met
    have long : (index digits shape).isLong = true := by simpa [isLong] using many
    have read := readLong long (offset + (spell chunks).length) rest
    simp only [text, List.cons_append, List.append_assoc, List.nil_append] at read
    rw [readChunks short, read]
    rfl

end Chunk

end Phrasebook
