import DimensionalMetrics.Tags
import DimensionalMetrics.Text.Quoted
import DimensionalMetrics.XXHash64

/-!
# Identities

A meter is known by a name and a set of tags.  An identity carries the hash of the two, which is
computed once, when it is built, and which lets most comparisons end early.  The order in which tags
are given never matters, because `Tags` has one form for each map from keys to values.
-/

namespace DimensionalMetrics

/-! ### The hashed bytes -/

/-- A string as it is hashed: its UTF-8 bytes and a byte that occurs in no UTF-8 text. -/
def hashedString (s : String) : List UInt8 := s.toList.flatMap String.utf8EncodeChar ++ [0xff]

/-- A number as eight bytes, the least significant one first. -/
def littleEndianBytes (n : Nat) : List UInt8 :=
  (List.range 8).map fun i => UInt8.ofNat (n >>> (8 * i))

def hashedTag (t : Tag) : List UInt8 := hashedString t.1 ++ hashedString t.2

/-- The bytes of which the hash of an identity is taken: the name, the number of tags, the tags. -/
def hashedBytes (name : String) (tags : Tags) : List UInt8 :=
  hashedString name ++ littleEndianBytes tags.size ++ tags.toList.flatMap hashedTag

def identitySeed : UInt64 := 0xdeadbeef

def identityHash (name : String) (tags : Tags) : UInt64 :=
  XXHash64.hash identitySeed (hashedBytes name tags)

/-! ### The type -/

/-- The identity of a meter. -/
structure Id where
  name : String
  tags : Tags
  hash : UInt64
  hash_eq : hash = identityHash name tags

namespace Id

def ofTags (name : String) (tags : Tags) : Id := ⟨name, tags, identityHash name tags, rfl⟩

/-- The identity of a name with a list of tags, of which the last one counts for a repeated key. -/
def make (name : String) (tags : List Tag) : Id := ofTags name (.ofList tags)

instance : Inhabited Id := ⟨make "" []⟩

@[ext] theorem ext {a b : Id} (hname : a.name = b.name) (htags : a.tags = b.tags) : a = b := by
  obtain ⟨name, tags, hash, h⟩ := a
  obtain ⟨name', tags', hash', h'⟩ := b
  cases hname
  cases htags
  cases h
  cases h'
  rfl

def withTag (id : Id) (key value : String) : Id := ofTags id.name (id.tags.insert key value)

/-- The identity with every tag of a list set, in order. -/
def withTags (id : Id) (tags : List Tag) : Id := ofTags id.name (id.tags.overlay (.ofList tags))

def tag? (id : Id) (key : String) : Option String := id.tags.get? key

/-- Equal identities have equal hashes, so most unequal ones are told apart without a look at their
strings. -/
def same (a b : Id) : Bool := a.hash == b.hash && (a.name == b.name && decide (a.tags = b.tags))

theorem same_iff {a b : Id} : a.same b = true ↔ a = b := by
  constructor
  · intro h
    simp only [same, Bool.and_eq_true, beq_iff_eq, decide_eq_true_eq] at h
    exact ext h.2.1 h.2.2
  · rintro rfl
    simp only [same, beq_self_eq_true, decide_true, Bool.and_self]

instance : BEq Id := ⟨same⟩

instance : LawfulBEq Id where
  eq_of_beq h := same_iff.mp h
  rfl := same_iff.mpr rfl

instance : DecidableEq Id := fun a b =>
  if h : a.same b = true then isTrue (same_iff.mp h) else isFalse fun he => h (same_iff.mpr he)

/-! ### Texts -/

/-- The short text of an identity: the name, then its tags in braces if there are any. -/
def text (id : Id) : String :=
  if id.tags.toList = [] then id.name
  else id.name ++ "\x7b" ++
    String.intercalate "," (id.tags.toList.map fun (k, v) => k ++ "=" ++ v) ++ "\x7d"

def describeTags (tags : Tags) : String :=
  "[" ++ String.intercalate ", "
    (tags.toList.map fun (k, v) => "(" ++ quoted k ++ ", " ++ quoted v ++ ")") ++ "]"

/-- The full text of an identity, with every string quoted. -/
def describe (id : Id) : String :=
  "Id \x7b name: " ++ quoted id.name ++ ", tags: " ++ describeTags id.tags ++ " \x7d"

/-- A number by which identities can be put in an order that has nothing to do with their texts.  It
stands for no more than that: two identities may have the same number. -/
def visitKey (id : Id) : Nat := id.hash.toNat % 0x200000000000000

/-- Identities in order of their names, and those with one name in order of their tags. -/
def compare (a b : Id) : Ordering :=
  (Ord.compare a.name b.name).then (compareTags a.tags.toList b.tags.toList)

end Id

end DimensionalMetrics
