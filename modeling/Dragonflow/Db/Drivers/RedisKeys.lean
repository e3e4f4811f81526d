import Dragonflow.Db.Drivers.Redis
import Dragonflow.Db.Drivers.RedisCluster

/-! # Key names of redis

`key2slot` of `dragonflow/db/drivers/redis_db_driver.py`, and how it agrees with
`_key_name`, with the patterns of a scan and with the expression that strips a name.
-/

namespace Dragonflow

/-- The part of a key between its first braces, if it is not empty, and else all of it. -/
def hashTag (key : List Char) : List Char :=
  match key.dropWhile (· ≠ '\x7b') with
  | [] => key
  | _ :: rest =>
      let tag := rest.takeWhile (· ≠ '\x7d')
      if tag.length < rest.length ∧ tag ≠ [] then tag else key

/-- `key2slot`. The checksum is that of the package `crc16`. -/
def key2slot (crc16xmodem : ByteArray → Nat) (key : String) : Nat :=
  crc16xmodem (String.ofList (hashTag key.toList)).toUTF8 % redisNslots

namespace RedisStore

/-! ## Bytes of a text -/

/-- The bytes of a character, written as characters. -/
def charBytes (char : Char) : List Char :=
  (String.utf8EncodeChar char).map fun byte => Char.ofNat byte.toNat

theorem toList_loop (bytes : ByteArray) (index : Nat) (reversed : List UInt8) :
    ByteArray.toList.loop bytes index reversed =
      reversed.reverse ++ bytes.data.toList.drop index := by
  induction index, reversed using ByteArray.toList.loop.induct bytes with
  | case1 index reversed inside induction =>
      have insideData : index < bytes.data.toList.length := by simpa using inside
      rw [ByteArray.toList.loop, if_pos inside, induction, List.reverse_cons,
        List.append_assoc, List.drop_eq_getElem_cons insideData]
      simp [ByteArray.get!, getElem!_pos, inside]
  | case2 index reversed outside =>
      have outsideData : bytes.data.toList.length ≤ index := by
        have outside := Nat.not_lt.mp outside
        simpa using outside
      rw [ByteArray.toList.loop, if_neg outside, List.drop_eq_nil_of_le outsideData,
        List.append_nil]

theorem toList_eq_data (bytes : ByteArray) : bytes.toList = bytes.data.toList := by
  rw [ByteArray.toList, toList_loop]
  rfl

theorem bytesOf_ofList (chars : List Char) :
    bytesOf (String.ofList chars) = chars.flatMap charBytes := by
  unfold bytesOf
  rw [String.toUTF8_eq_toByteArray, String.toByteArray_ofList, toList_eq_data,
    List.utf8Encode, List.toList_data_toByteArray, List.map_flatMap]
  rfl

theorem toNat_ofByte (number : Nat) (isByte : number < 256) :
    (Char.ofNat number).toNat = number := by
  have isValid : number.isValidChar := Or.inl (by omega)
  rw [Char.ofNat, dif_pos isValid]
  rfl

theorem byte_large {byte low : UInt8} (large : 128 ≤ low.toNat) :
    128 ≤ (byte ||| low).toNat := by
  rw [UInt8.toNat_or]
  exact Nat.le_trans large Nat.right_le_or

/-- The bytes of other characters are at least 128. -/
theorem utf8EncodeChar_large {char : Char} {byte : UInt8}
    (member : byte ∈ String.utf8EncodeChar char) (other : char.utf8Size ≠ 1) :
    128 ≤ byte.toNat := by
  rcases Char.utf8Size_eq char with one | two | three | four
  · exact absurd one other
  · rw [String.utf8EncodeChar_eq_cons_cons two] at member
    simp only [List.mem_cons, List.not_mem_nil, or_false] at member
    rcases member with isByte | isByte
    · exact isByte ▸ byte_large (by decide)
    · exact isByte ▸ byte_large (by decide)
  · rw [String.utf8EncodeChar_eq_cons_cons_cons three] at member
    simp only [List.mem_cons, List.not_mem_nil, or_false] at member
    rcases member with isByte | isByte | isByte
    · exact isByte ▸ byte_large (by decide)
    · exact isByte ▸ byte_large (by decide)
    · exact isByte ▸ byte_large (by decide)
  · rw [String.utf8EncodeChar_eq_cons_cons_cons_cons four] at member
    simp only [List.mem_cons, List.not_mem_nil, or_false] at member
    rcases member with isByte | isByte | isByte | isByte
    · exact isByte ▸ byte_large (by decide)
    · exact isByte ▸ byte_large (by decide)
    · exact isByte ▸ byte_large (by decide)
    · exact isByte ▸ byte_large (by decide)

/-- An ASCII byte belongs to the character that it stands for. -/
theorem charBytes_ascii {char byte : Char} (member : byte ∈ charBytes char)
    (isAscii : byte.toNat < 128) : byte = char := by
  rcases List.mem_map.mp member with ⟨number, isByte, isChar⟩
  have isNumber : byte.toNat = number.toNat := by
    rw [← isChar]
    exact toNat_ofByte _ (UInt8.toNat_lt number)
  by_cases single : char.utf8Size = 1
  · rw [String.utf8EncodeChar_eq_singleton single, List.mem_singleton] at isByte
    have codeSmall : char.toNat < 128 := by
      have bound : char.val ≤ 127 := Char.utf8Size_eq_one_iff.mp single
      exact Nat.lt_succ_of_le (UInt32.le_iff_toNat_le.mp bound)
    have same : number.toNat = char.toNat := by
      rw [isByte, UInt32.toNat_toUInt8]
      exact Nat.mod_eq_of_lt (Nat.lt_trans codeSmall (by decide))
    apply Char.toNat_inj.mp
    rw [isNumber, same]
  · have large := utf8EncodeChar_large isByte single
    omega

/-- The bytes of one text begin those of another only if its characters do. -/
theorem bytes_prefix {first second : List Char}
    (isPrefix : first.flatMap charBytes <+: second.flatMap charBytes) :
    first <+: second := by
  have isByte (chars : List Char) : chars.flatMap charBytes =
      (chars.flatMap String.utf8EncodeChar).map fun byte => Char.ofNat byte.toNat := by
    rw [List.map_flatMap]
    rfl
  have injective : Function.Injective fun byte : UInt8 => Char.ofNat byte.toNat := by
    intro byte other same
    have sameNat := congrArg Char.toNat same
    simp only [toNat_ofByte _ (UInt8.toNat_lt byte),
      toNat_ofByte _ (UInt8.toNat_lt other)] at sameNat
    exact UInt8.toNat_inj.mp sameNat
  rw [isByte, isByte] at isPrefix
  rcases isPrefix with ⟨rest, isSecond⟩
  rcases List.map_eq_append_iff.mp isSecond.symm with ⟨firstBytes, restBytes, split, isFirst, -⟩
  have sameFirst : firstBytes = first.flatMap String.utf8EncodeChar :=
    List.map_injective_iff.mpr injective isFirst
  apply List.isPrefix_of_utf8Encode_append_eq_utf8Encode restBytes.toByteArray
  rw [List.utf8Encode, List.utf8Encode, split, sameFirst, List.toByteArray_append]

/-! ## Patterns -/

/-- The characters that mean something in a pattern. -/
def globChars : List Char := ['*', '?', '[', '\\']

theorem matchChars_star (fuel : Nat) (text : List Char) (enough : text.length < fuel) :
    matchChars fuel ['*'] text = true := by
  induction text generalizing fuel with
  | nil =>
      rcases fuel with _ | fuel
      · exact absurd enough (Nat.lt_irrefl 0)
      · rw [matchChars]
        cases fuel <;> rfl
  | cons char text induction =>
      rcases fuel with _ | fuel
      · exact absurd enough (Nat.not_lt_zero _)
      · have later := induction fuel (Nat.lt_of_succ_lt_succ enough)
        rw [matchChars, later, Bool.or_true]

/-- Other characters match themselves, and a star at the end matches the rest. -/
theorem matchChars_literal (literal text : List Char) (fuel : Nat)
    (plain : ∀ char ∈ literal, char ∉ globChars)
    (enough : literal.length + text.length < fuel) :
    matchChars fuel (literal ++ ['*']) text = true ↔ literal <+: text := by
  induction literal generalizing fuel text with
  | nil =>
      refine iff_of_true (matchChars_star fuel text ?_) List.nil_prefix
      simpa using enough
  | cons first literal induction =>
      rcases fuel with _ | fuel
      · exact absurd enough (Nat.not_lt_zero _)
      · have notGlob := plain first List.mem_cons_self
        simp only [globChars, List.mem_cons, List.not_mem_nil, or_false, not_or] at notGlob
        rcases notGlob with ⟨notStar, notAny, notClass, notEscape⟩
        cases text with
        | nil =>
            refine iff_of_false ?_ (by simp)
            simp [matchChars]
        | cons char text =>
            have later := induction text fuel
              (fun found member => plain found (List.mem_cons_of_mem _ member))
              (by simp only [List.length_cons] at enough; omega)
            rw [List.cons_append, List.cons_prefix_cons, ← later]
            simp [matchChars, notClass, notEscape]

end RedisStore

namespace RedisDriver

open RedisStore

/-! ## Names -/

/-- A text without braces, newlines and characters of patterns. -/
def PlainText (text : String) : Prop :=
  ∀ char ∈ text.toList, char ≠ '\x7b' ∧ char ≠ '\x7d' ∧ char ≠ '\n' ∧ char ∉ globChars

/-- Names of tables have no dot. -/
structure TableName (table : String) : Prop where
  plain : PlainText table
  noDot : '.' ∉ table.toList

/-- Keys are not empty, and have no closing brace and no newline. -/
structure KeyText (key : String) : Prop where
  nonempty : key.toList ≠ []
  plain : ∀ char ∈ key.toList, char ≠ '\x7d' ∧ char ≠ '\n'

/-- What stands between the braces of a name. -/
def tagOf (table topic : String) : List Char :=
  table.toList ++ '.' :: topic.toList

theorem keyName_toList (table topic key : String) :
    (keyName table (some topic) key).toList =
      '\x7b' :: (tagOf table topic ++ '\x7d' :: key.toList) := by
  unfold keyName tagOf
  simp only [String.toList_append, Option.getD_some]
  simp

theorem queryPattern_toList (table topic : String) :
    (queryPattern table (some topic)).toList =
      '\x7b' :: (tagOf table topic ++ ['\x7d']) ++ ['*'] := by
  have isPattern : queryPattern table (some topic) = keyName table (some topic) "*" := rfl
  rw [isPattern, keyName_toList]
  simp

section Names

variable {table topic key other otherTopic otherKey : String}

theorem tagOf_plain (isTable : TableName table) (isTopic : PlainText topic) :
    ∀ char ∈ tagOf table topic, char ≠ '\x7b' ∧ char ≠ '\x7d' ∧ char ≠ '\n' ∧
      char ∉ globChars := by
  intro char member
  rcases List.mem_append.mp member with inTable | inRest
  · exact isTable.plain char inTable
  · rcases List.mem_cons.mp inRest with isDot | inTopic
    · subst isDot
      decide
    · exact isTopic char inTopic

/-- A text up to its first character of a kind, and what follows. -/
theorem append_cons_inj {mark : Char} {first second rest otherRest : List Char}
    (firstFree : mark ∉ first) (secondFree : mark ∉ second)
    (same : first ++ mark :: rest = second ++ mark :: otherRest) :
    first = second ∧ rest = otherRest := by
  induction first generalizing second with
  | nil =>
      cases second with
      | nil => exact ⟨rfl, (List.cons.inj same).2⟩
      | cons head tail =>
          have isMark : mark = head := (List.cons.inj same).1
          exact absurd (isMark ▸ List.mem_cons_self) secondFree
  | cons head tail induction =>
      cases second with
      | nil =>
          have isMark : head = mark := (List.cons.inj same).1
          exact absurd (isMark ▸ List.mem_cons_self) firstFree
      | cons otherHead otherTail =>
          rcases List.cons.inj same with ⟨sameHead, sameTail⟩
          have later := induction (fun member => firstFree (List.mem_cons_of_mem _ member))
            (fun member => secondFree (List.mem_cons_of_mem _ member)) sameTail
          rw [sameHead, later.1]
          exact ⟨rfl, later.2⟩

theorem tagOf_inj (isTable : TableName table) (isOther : TableName other)
    (same : tagOf table topic = tagOf other otherTopic) :
    table = other ∧ topic = otherTopic := by
  rcases append_cons_inj isTable.noDot isOther.noDot same with ⟨sameTable, sameTopic⟩
  exact ⟨String.toList_inj.mp sameTable, String.toList_inj.mp sameTopic⟩

/-! ## The four readings of a name -/

theorem keyName_inj (isTable : TableName table) (isOther : TableName other)
    (isTopic : PlainText topic) (isOtherTopic : PlainText otherTopic)
    (same : keyName table (some topic) key = keyName other (some otherTopic) otherKey) :
    table = other ∧ topic = otherTopic ∧ key = otherKey := by
  have sameList := congrArg String.toList same
  rw [keyName_toList, keyName_toList] at sameList
  have tagFree (chars : List Char) (plain : ∀ char ∈ chars, char ≠ '\x7b' ∧
      char ≠ '\x7d' ∧ char ≠ '\n' ∧ char ∉ globChars) : '\x7d' ∉ chars :=
    fun member => (plain _ member).2.1 rfl
  rcases append_cons_inj (tagFree _ (tagOf_plain isTable isTopic))
    (tagFree _ (tagOf_plain isOther isOtherTopic)) (List.cons.inj sameList).2 with
    ⟨sameTag, sameKey⟩
  rcases tagOf_inj isTable isOther sameTag with ⟨sameTable, sameTopic⟩
  exact ⟨sameTable, sameTopic, String.toList_inj.mp sameKey⟩

/-- The hash tag of a name, or of a pattern, is what stands between the braces. -/
theorem hashTag_name (isTable : TableName table) (isTopic : PlainText topic)
    (rest : List Char) :
    hashTag ('\x7b' :: (tagOf table topic ++ '\x7d' :: rest)) = tagOf table topic := by
  have plain := tagOf_plain isTable isTopic
  have isTag : (tagOf table topic ++ '\x7d' :: rest).takeWhile (· ≠ '\x7d') =
      tagOf table topic := by
    rw [List.takeWhile_append_of_pos]
    · simp
    · intro char member
      exact decide_eq_true (plain char member).2.1
  have someTag : tagOf table topic ≠ [] := by
    unfold tagOf
    simp
  have isFirst : ('\x7b' :: (tagOf table topic ++ '\x7d' :: rest)).dropWhile (· ≠ '\x7b') =
      '\x7b' :: (tagOf table topic ++ '\x7d' :: rest) := by
    rw [List.dropWhile_cons_of_neg]
    decide
  unfold hashTag
  rw [isFirst]
  simp only
  rw [isTag, if_pos]
  refine ⟨?_, someTag⟩
  rw [List.length_append, List.length_cons]
  omega

theorem key2slot_name (crc16xmodem : ByteArray → Nat) (isTable : TableName table)
    (isTopic : PlainText topic) :
    key2slot crc16xmodem (keyName table (some topic) key) =
      key2slot crc16xmodem (queryPattern table (some topic)) := by
  have isPattern : queryPattern table (some topic) = keyName table (some topic) "*" := rfl
  unfold key2slot
  rw [isPattern, keyName_toList, keyName_toList, hashTag_name isTable isTopic,
    hashTag_name isTable isTopic]

theorem stringMatch_name (isTable : TableName table) (isOther : TableName other)
    (isTopic : PlainText topic) (isOtherTopic : PlainText otherTopic) :
    stringMatch (queryPattern table (some topic))
        (keyName other (some otherTopic) otherKey) = true ↔
      table = other ∧ topic = otherTopic := by
  have bytes (text : String) : bytesOf text = text.toList.flatMap charBytes := by
    rw [← bytesOf_ofList, String.ofList_toList]
  have star : charBytes '*' = ['*'] := by decide
  have plainBytes : ∀ byte ∈
      ('\x7b' :: (tagOf table topic ++ ['\x7d'])).flatMap charBytes, byte ∉ globChars := by
    intro byte member isGlob
    rcases List.mem_flatMap.mp member with ⟨char, isChar, isByte⟩
    have small : ∀ glob ∈ globChars, glob.toNat < 128 := by simp [globChars]
    rw [charBytes_ascii isByte (small byte isGlob)] at isGlob
    rcases List.mem_cons.mp isChar with isOpen | inRest
    · rw [isOpen] at isGlob
      exact absurd isGlob (by decide)
    · rcases List.mem_append.mp inRest with inTag | isClose
      · exact (tagOf_plain isTable isTopic char inTag).2.2.2 isGlob
      · rw [List.mem_singleton.mp isClose] at isGlob
        exact absurd isGlob (by decide)
  have enough (pattern string : List Char) :
      pattern.length + string.length < (pattern ++ ['*']).length + string.length := by
    rw [List.length_append, List.length_singleton]
    omega
  unfold stringMatch
  rw [bytes, bytes, queryPattern_toList, List.flatMap_append, List.flatMap_singleton, star,
    matchChars_literal _ _ _ plainBytes (enough _ _)]
  have isLiteral : '\x7b' :: (tagOf table topic ++ ['\x7d']) <+:
      (keyName other (some otherTopic) otherKey).toList ↔
      table = other ∧ topic = otherTopic := by
    rw [keyName_toList]
    constructor
    · rintro ⟨rest, isName⟩
      rw [List.cons_append, List.append_assoc, List.singleton_append] at isName
      have isName := (List.cons.inj isName).2
      have firstFree : '\x7d' ∉ tagOf table topic :=
        fun member => (tagOf_plain isTable isTopic _ member).2.1 rfl
      have secondFree : '\x7d' ∉ tagOf other otherTopic :=
        fun member => (tagOf_plain isOther isOtherTopic _ member).2.1 rfl
      exact tagOf_inj isTable isOther (append_cons_inj firstFree secondFree isName).1
    · rintro ⟨sameTable, sameTopic⟩
      rw [sameTable, sameTopic]
      refine ⟨otherKey.toList, ?_⟩
      simp
  rw [← isLiteral]
  constructor
  · exact bytes_prefix
  · rintro ⟨rest, isName⟩
    rw [← isName, List.flatMap_append]
    exact List.prefix_append _ _

/-- The last brace that something follows is the one that ends the tag. -/
theorem afterLastBrace_none {chars : List Char} (free : '\x7d' ∉ chars) :
    afterLastBrace chars = none := by
  induction chars with
  | nil => rfl
  | cons char chars induction =>
      have later := induction fun member => free (List.mem_cons_of_mem _ member)
      have different : char ≠ '\x7d' := fun same => free (same ▸ List.mem_cons_self)
      rw [afterLastBrace, later]
      simp [different]

theorem afterLastBrace_append (before rest : List Char) (free : '\x7d' ∉ rest)
    (nonempty : rest ≠ []) :
    afterLastBrace (before ++ '\x7d' :: rest) = some rest := by
  induction before with
  | nil =>
      rw [List.nil_append, afterLastBrace, afterLastBrace_none free]
      simp [nonempty]
  | cons char before induction => rw [List.cons_append, afterLastBrace, induction]

theorem stripTableTopic_name (isTable : TableName table) (isTopic : PlainText topic)
    (isKey : KeyText key) : stripTableTopic (keyName table (some topic) key) = key := by
  have plain := tagOf_plain isTable isTopic
  have keyFree : '\x7d' ∉ key.toList := fun member => (isKey.plain _ member).1 rfl
  have noNewline : '\n' ∉ '\x7b' :: (tagOf table topic ++ '\x7d' :: key.toList) := by
    intro member
    rcases List.mem_cons.mp member with isOpen | inRest
    · cases isOpen
    · rcases List.mem_append.mp inRest with inTag | inKey
      · exact (plain _ inTag).2.2.1 rfl
      · rcases List.mem_cons.mp inKey with isClose | inKey
        · cases isClose
        · exact (isKey.plain _ inKey).2 rfl
  have lastPlain : ('\x7b' :: (tagOf table topic ++ '\x7d' :: key.toList)).getLast? ≠
      some '\n' :=
    fun isLast => noNewline (List.mem_of_getLast? isLast)
  obtain ⟨first, rest, isTag⟩ : ∃ first rest, tagOf table topic = first :: rest := by
    cases isTag : tagOf table topic with
    | nil =>
        unfold tagOf at isTag
        simp at isTag
    | cons first rest => exact ⟨first, rest, rfl⟩
  have restPlain : '\n' ∉ first :: (rest ++ '\x7d' :: key.toList) := by
    intro member
    apply noNewline
    rw [isTag]
    exact List.mem_cons_of_mem _ member
  unfold stripTableTopic
  rw [keyName_toList, if_neg lastPlain, isTag, List.cons_append]
  simp only
  rw [if_neg restPlain, afterLastBrace_append _ _ keyFree isKey.nonempty]
  exact String.ofList_toList

end Names

/-- Names of different tables, topics or keys differ; all names of a table and a topic
hash to the slot of their pattern, which matches no other name; and stripping a name
gives its key. -/
theorem key_names_unambiguous (crc16xmodem : ByteArray → Nat)
    {table topic key other otherTopic otherKey : String} (isTable : TableName table)
    (isTopic : PlainText topic) (isKey : KeyText key) (isOther : TableName other)
    (isOtherTopic : PlainText otherTopic) (_isOtherKey : KeyText otherKey) :
    (keyName table (some topic) key = keyName other (some otherTopic) otherKey ↔
        table = other ∧ topic = otherTopic ∧ key = otherKey) ∧
      key2slot crc16xmodem (keyName table (some topic) key) =
        key2slot crc16xmodem (queryPattern table (some topic)) ∧
      (∀ cluster : Cluster,
        cluster.getNode (key2slot crc16xmodem (keyName table (some topic) key)) =
          cluster.getNode (key2slot crc16xmodem (queryPattern table (some topic)))) ∧
      (stringMatch (queryPattern table (some topic))
          (keyName other (some otherTopic) otherKey) = true ↔
        table = other ∧ topic = otherTopic) ∧
      stripTableTopic (keyName table (some topic) key) = key := by
  have sameSlot : key2slot crc16xmodem (keyName table (some topic) key) =
      key2slot crc16xmodem (queryPattern table (some topic)) :=
    key2slot_name crc16xmodem isTable isTopic
  refine ⟨⟨?_, ?_⟩, sameSlot, ?_, ?_, ?_⟩
  · exact keyName_inj isTable isOther isTopic isOtherTopic
  · rintro ⟨sameTable, sameTopic, sameKey⟩
    rw [sameTable, sameTopic, sameKey]
  · intro cluster
    rw [sameSlot]
  · exact stringMatch_name isTable isOther isTopic isOtherTopic
  · exact stripTableTopic_name isTable isTopic isKey

theorem key_names_unambiguous_ports :
    stripTableTopic (keyName "lport" (some "tenant") "port-1") = "port-1" ∧
      stringMatch (queryPattern "lport" (some "tenant"))
        (keyName "lport" (some "") "port-1") ≠ true := by
  have isTable : TableName "lport" := ⟨by simp [PlainText, globChars], by simp⟩
  have isTopic : PlainText "tenant" := by simp [PlainText, globChars]
  have noTopic : PlainText "" := by simp [PlainText]
  have isKey : KeyText "port-1" := ⟨by simp, by simp⟩
  have readings := key_names_unambiguous (fun _ => 0) isTable isTopic isKey isTable noTopic
    isKey
  refine ⟨readings.2.2.2.2, fun isMatch => ?_⟩
  exact absurd (readings.2.2.2.1.mp isMatch).2 (by decide)

end RedisDriver

end Dragonflow
