import SqlDialect.Proofs.Url.Password
import SqlDialect.Url

/-!
# The parts of an address

An address is taken apart at its first colon, after one mark in front of it has been dropped. It can
be taken apart exactly if something stands in front of that colon.

## Five bytes

Where texts are bytes, the mark is looked for in the first five of them. An address may start with
characters of several bytes, and then the fifth byte need not be the last one of a character. This
makes no difference: all characters of the mark are ASCII in whatever case it is written, so five
bytes that are the mark are five characters.

## Main definitions

* `ConnectionUrl.IsMark`, `ConnectionUrl.HasMark` — the mark in whatever case, and texts with it
* `ConnectionUrl.Unmarked` — an address and what is left of it without the mark
* `Text.cutBytes?` — a text cut after a number of bytes

## Main results

* `ConnectionUrl.unmarked_iff` — what is left of an address is known from the address
* `ConnectionUrl.withoutScheme_eq_cutBytes?` — the mark in the first five bytes
* `ConnectionUrl.parse_eq_ok_iff` — which addresses can be taken apart, and their parts
* `ConnectionUrl.parse_mark_append` — what the mark changes
-/

namespace SqlDialect

/-! ### Letters of one byte -/

namespace Text

/-- A capital letter changes to a small one, and no other character changes. -/
theorem toLower_eq_or (c : Char) :
    c.toLower = c ∨ c.val ≤ 'Z'.val ∧ 'a'.val ≤ c.toLower.val ∧ c.toLower.val ≤ 'z'.val := by
  by_cases h : 'A'.val ≤ c.val ∧ c.val ≤ 'Z'.val
  · have hval : c.toLower.val = c.val + 32 := congrArg Char.val (dif_pos h)
    have hfrom : 65 ≤ c.val.toNat := UInt32.le_iff_toNat_le.mp h.1
    have hto : c.val.toNat ≤ 90 := UInt32.le_iff_toNat_le.mp h.2
    have hsum : (c.val + 32).toNat = c.val.toNat + 32 := by
      rw [UInt32.toNat_add]
      exact Nat.mod_eq_of_lt (by simp only [UInt32.reduceToNat]; omega)
    refine .inr ⟨h.2, UInt32.le_iff_toNat_le.mpr ?_, UInt32.le_iff_toNat_le.mpr ?_⟩
    · rw [hval, hsum]
      exact Nat.add_le_add_right hfrom 32
    · rw [hval, hsum]
      exact Nat.add_le_add_right hto 32
  · exact .inl (dif_neg h)

/-- A change of case neither makes nor removes a character that is not a letter. -/
theorem toLower_eq_iff {c m : Char} (h : m.isAlpha = false) : c.toLower = m ↔ c = m := by
  obtain ⟨hupper, hlower⟩ := Bool.or_eq_false_iff.mp h
  constructor
  · rintro rfl
    rcases toLower_eq_or c with hc | ⟨-, hc⟩
    · exact hc.symm
    · have hsmall : c.toLower.isLower = true :=
        Bool.and_eq_true_iff.mpr ⟨decide_eq_true hc.1, decide_eq_true hc.2⟩
      exact absurd (hlower.symm.trans hsmall) Bool.false_ne_true
  · rintro rfl
    exact dif_neg (of_decide_eq_false hupper)

theorem mem_asciiLower_iff {m : Char} {text : Text} (h : m.isAlpha = false) :
    m ∈ asciiLower text ↔ m ∈ text := by
  simp [asciiLower, toLower_eq_iff h]

theorem asciiLower_append (front rest : Text) :
    asciiLower (front ++ rest) = asciiLower front ++ asciiLower rest := List.map_append

theorem utf8Size_toLower (c : Char) : c.toLower.utf8Size = c.utf8Size := by
  rcases toLower_eq_or c with h | ⟨hc, -, hlower⟩
  · rw [h]
  · have hone : c.utf8Size = 1 := Char.utf8Size_eq_one_iff.mpr (UInt32.le_trans hc (by decide))
    have hsame : c.toLower.utf8Size = 1 :=
      Char.utf8Size_eq_one_iff.mpr (UInt32.le_trans hlower (by decide))
    rw [hone, hsame]

/-! ### Cutting bytes -/

/-- The number of bytes of a text. -/
def byteSize : Text → Nat
  | [] => 0
  | c :: text => c.utf8Size + byteSize text

theorem byteSize_cons (c : Char) (text : Text) :
    byteSize (c :: text) = c.utf8Size + byteSize text := rfl

theorem byteSize_asciiLower (text : Text) : byteSize (asciiLower text) = byteSize text := by
  induction text with
  | nil => rfl
  | cons c text ih =>
    have hcons : asciiLower (c :: text) = c.toLower :: asciiLower text := rfl
    rw [hcons, byteSize_cons, byteSize_cons, utf8Size_toLower, ih]

/-- The first `size` bytes of a text and what follows them; none if the text is shorter or a
character has bytes on both sides. -/
def cutBytes? : Nat → Text → Option (Text × Text)
  | 0, text => some ([], text)
  | _ + 1, [] => none
  | size + 1, c :: text =>
    if c.utf8Size ≤ size + 1 then
      (cutBytes? (size + 1 - c.utf8Size) text).map fun (front, rest) => (c :: front, rest)
    else none

theorem cutBytes?_append (front rest : Text) :
    cutBytes? (byteSize front) (front ++ rest) = some (front, rest) := by
  induction front with
  | nil => cases rest <;> rfl
  | cons c front ih =>
    obtain ⟨size, hsize⟩ := Nat.exists_eq_add_one.mpr c.utf8Size_pos
    have htotal : byteSize (c :: front) = size + byteSize front + 1 := by
      rw [byteSize_cons, hsize]
      omega
    have hfits : c.utf8Size ≤ size + byteSize front + 1 := by omega
    have hleft : size + byteSize front + 1 - c.utf8Size = byteSize front := by omega
    rw [htotal, List.cons_append, cutBytes?, if_pos hfits, hleft, ih]
    rfl

theorem of_cutBytes?_eq_some {size : Nat} {text front rest : Text}
    (h : cutBytes? size text = some (front, rest)) :
    text = front ++ rest ∧ byteSize front = size := by
  fun_induction cutBytes? size text generalizing front with
  | case1 text =>
    obtain ⟨rfl, rfl⟩ := Prod.mk.inj (Option.some.inj h)
    exact ⟨rfl, rfl⟩
  | case2 size => cases h
  | case3 size c text hfits ih =>
    obtain ⟨⟨front, rest⟩, hcut, hcons⟩ := Option.map_eq_some_iff.mp h
    obtain ⟨rfl, rfl⟩ := Prod.mk.inj hcons
    obtain ⟨rfl, hsize⟩ := ih hcut
    refine ⟨rfl, ?_⟩
    rw [byteSize_cons, hsize]
    omega
  | case4 size c text hlong => cases h

theorem cutBytes?_eq_some_iff {size : Nat} {text front rest : Text} :
    cutBytes? size text = some (front, rest) ↔ text = front ++ rest ∧ byteSize front = size := by
  refine ⟨of_cutBytes?_eq_some, ?_⟩
  rintro ⟨rfl, rfl⟩
  exact cutBytes?_append front rest

end Text

namespace ConnectionUrl

variable {url rest kind name mark : Text} {address : ConnectionUrl}

/-! ### The mark -/

/-- A spelling of the mark. -/
def IsMark (mark : Text) : Prop := Text.asciiLower mark = scheme

instance (mark : Text) : Decidable (IsMark mark) :=
  inferInstanceAs (Decidable (Text.asciiLower mark = scheme))

theorem isMark_scheme : IsMark scheme := by decide

/-- An address with the mark in front. -/
def HasMark (url : Text) : Prop := ∃ mark, IsMark mark ∧ mark <+: url

/-- What is left of an address without the mark in front; a second one stays. -/
inductive Unmarked : Text → Text → Prop
  /-- The mark is dropped. -/
  | marked {mark : Text} (h : IsMark mark) (rest : Text) : Unmarked (mark ++ rest) rest
  /-- There is no mark. -/
  | plain {url : Text} (h : ¬ HasMark url) : Unmarked url url

theorem IsMark.length_eq (h : IsMark mark) : mark.length = scheme.length := by
  have := congrArg List.length h
  rwa [Text.asciiLower, List.length_map] at this

theorem IsMark.byteSize_eq (h : IsMark mark) : Text.byteSize mark = scheme.length := by
  rw [← Text.byteSize_asciiLower, h]
  decide

theorem hasMark_iff : HasMark url ↔ scheme <+: Text.asciiLower url := by
  rw [Text.asciiLower, List.prefix_map_iff]
  exact ⟨fun ⟨mark, hmark, hprefix⟩ => ⟨mark, hprefix, hmark.symm⟩,
    fun ⟨mark, hprefix, hmark⟩ => ⟨mark, hmark.symm, hprefix⟩⟩

instance (url : Text) : Decidable (HasMark url) := decidable_of_iff _ hasMark_iff.symm

theorem withoutScheme_append (h : IsMark mark) (rest : Text) :
    withoutScheme (mark ++ rest) = rest := by
  have hself : Text.eqIgnoringAsciiCase mark scheme = true := beq_iff_eq.mpr h
  rw [withoutScheme, ← h.length_eq, List.take_left, List.drop_left, if_pos hself]

theorem withoutScheme_of_not_hasMark (h : ¬ HasMark url) : withoutScheme url = url := by
  rw [withoutScheme, if_neg]
  intro hsame
  exact h ⟨_, beq_iff_eq.mp hsame, List.take_prefix _ _⟩

/-- **What is left of an address is known from the address.** -/
theorem unmarked_iff : Unmarked url rest ↔ withoutScheme url = rest := by
  constructor
  · intro h
    cases h with
    | marked h rest => exact withoutScheme_append h rest
    | plain h => exact withoutScheme_of_not_hasMark h
  · rintro rfl
    by_cases h : HasMark url
    · obtain ⟨mark, hmark, rest, rfl⟩ := h
      rw [withoutScheme_append hmark]
      exact .marked hmark rest
    · rw [withoutScheme_of_not_hasMark h]
      exact .plain h

/-- **The mark is found in the first five bytes.** -/
theorem withoutScheme_eq_cutBytes? (url : Text) :
    withoutScheme url
      = match Text.cutBytes? scheme.length url with
        | some (front, rest) => if Text.eqIgnoringAsciiCase front scheme then rest else url
        | none => url := by
  by_cases h : HasMark url
  · obtain ⟨mark, hmark, rest, rfl⟩ := h
    have hcut : Text.cutBytes? scheme.length (mark ++ rest) = some (mark, rest) :=
      Text.cutBytes?_eq_some_iff.mpr ⟨rfl, hmark.byteSize_eq⟩
    have hself : Text.eqIgnoringAsciiCase mark scheme = true := beq_iff_eq.mpr hmark
    rw [withoutScheme_append hmark, hcut]
    exact (if_pos hself).symm
  · rw [withoutScheme_of_not_hasMark h]
    split
    · next front rest hcut =>
      have hprefix : front <+: url := ⟨rest, (Text.cutBytes?_eq_some_iff.mp hcut).1.symm⟩
      have hother : ¬ Text.eqIgnoringAsciiCase front scheme = true :=
        fun hsame => h ⟨front, beq_iff_eq.mp hsame, hprefix⟩
      exact (if_neg hother).symm
    · rfl

/-! ### Taking an address apart -/

/-- With the parts of an address or with the error for it comes one and the same text. -/
theorem parse_cases (url : Text) :
    (∃ kind name, parse url = .ok ⟨kind, name, PasswordMask.apply url⟩) ∨
      parse url = .error (.invalidUrl (PasswordMask.apply url)) := by
  rw [parse]
  split
  · exact .inl ⟨_, _, rfl⟩
  · exact .inr rfl

/-- The kind of database ends at the first colon. -/
theorem parse_of_unmarked (h : Unmarked url (kind ++ ':' :: name)) (hkind : kind ≠ [])
    (hcolon : ':' ∉ kind) :
    parse url = .ok ⟨Text.asciiLower kind, name, PasswordMask.apply url⟩ := by
  obtain ⟨c, kind, rfl⟩ := List.exists_cons_of_ne_nil hkind
  have hsplit : Text.splitOnce ":" (withoutScheme url) = some (c :: kind, name) := by
    rw [unmarked_iff.mp h]
    exact Text.splitOnce_singleton_append hcolon name
  rw [parse, hsplit]

/-- **An address can be taken apart exactly if a kind of database stands in front of its first
colon.** -/
theorem parse_eq_ok_iff (h : Unmarked url rest) :
    parse url = .ok address ↔
      ∃ kind name, rest = kind ++ ':' :: name ∧ kind ≠ [] ∧ ':' ∉ kind ∧
        address = ⟨Text.asciiLower kind, name, PasswordMask.apply url⟩ := by
  constructor
  · intro hparse
    by_cases hcolon : ':' ∈ rest
    · obtain ⟨kind, name, rfl, hfirst⟩ := List.eq_append_cons_of_mem hcolon
      have hkind : kind ≠ [] := by
        rintro rfl
        have hsplit : Text.splitOnce ":" (withoutScheme url) = some ([], name) := by
          rw [unmarked_iff.mp h]
          exact Text.splitOnce_singleton_append hfirst name
        rw [parse, hsplit] at hparse
        cases hparse
      rw [parse_of_unmarked h hkind hfirst] at hparse
      exact ⟨kind, name, rfl, hkind, hfirst, (Except.ok.inj hparse).symm⟩
    · have hsplit : Text.splitOnce ":" (withoutScheme url) = none := by
        rw [unmarked_iff.mp h]
        exact Text.splitOnce_singleton_eq_none hcolon
      rw [parse, hsplit] at hparse
      cases hparse
  · rintro ⟨kind, name, rfl, hkind, hcolon, rfl⟩
    exact parse_of_unmarked h hkind hcolon

/-- No parameter opens in the mark. -/
theorem IsMark.disjoint (h : IsMark mark) : mark.Disjoint ['?', '&', ';'] := by
  intro c hc hopens
  have hlower : c.toLower ∈ scheme := h ▸ List.mem_map_of_mem hc
  simp only [List.mem_cons, List.not_mem_nil, or_false] at hopens
  rcases hopens with rfl | rfl | rfl <;> exact absurd hlower (by decide)

/-- **The mark changes nothing but what is shown**, where it is in front as it is written. -/
theorem parse_mark_append (hmark : IsMark mark) (h : ¬ HasMark rest) :
    (∃ kind name masked, parse rest = .ok ⟨kind, name, masked⟩ ∧
      parse (mark ++ rest) = .ok ⟨kind, name, mark ++ masked⟩) ∨
    ∃ masked, parse rest = .error (.invalidUrl masked) ∧
      parse (mark ++ rest) = .error (.invalidUrl (mark ++ masked)) := by
  have hshown : PasswordMask.apply (mark ++ rest) = mark ++ PasswordMask.apply rest :=
    PasswordMask.apply_append hmark.disjoint rest
  have hrest : withoutScheme (mark ++ rest) = withoutScheme rest := by
    rw [withoutScheme_append hmark, withoutScheme_of_not_hasMark h]
  rw [parse, parse, hrest, hshown]
  split
  · exact .inl ⟨_, _, _, rfl, rfl⟩
  · exact .inr ⟨_, rfl, rfl⟩

end ConnectionUrl

end SqlDialect
