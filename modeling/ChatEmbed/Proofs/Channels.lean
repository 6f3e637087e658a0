import ChatEmbed.Proofs.Numerals
import ChatEmbed.Proofs.Classification
import ChatEmbed.Proofs.Schema

/-!
# Which arguments are colors

A color argument is read in three stages: its channels are found, each one is checked to be at most
255, and they have to be one or three.  The stages decide which of several faults is reported.

* `Color.Spells` says how a channel may be written, `Color.Written` how a list of them may be.  What
  `Color.channels` accepts is just that (`Color.channels_eq_ok_iff`).
* `Color.Levels` says which three numbers the channels of a color are.
* `Color.read_grammar` says which arguments have a color, and of the others with the right form
  which fault they have.
-/

set_option autoImplicit false

namespace ChatEmbed

/-! ## Digits and blanks -/

theorem isBlank_eq_false_of_isDigit {c : Char} (h : c.isDigit = true) : isBlank c = false := by
  have hrange : 48 ≤ c.toNat ∧ c.toNat ≤ 57 := Char.isDigit_iff_toNat.mp h
  rw [Bool.eq_false_iff, ne_eq, isBlank_iff]
  omega

/-- A run of digits ends where blanks follow. -/
theorem Text.span_digits {digits after : Text} (hdigits : ∀ c ∈ digits, c.isDigit = true)
    (hafter : ∀ c ∈ after, isBlank c = true) :
    (digits ++ after).takeWhile Char.isDigit = digits ∧
      (digits ++ after).dropWhile Char.isDigit = after := by
  rw [List.takeWhile_append_of_pos hdigits, List.dropWhile_append_of_pos hdigits]
  cases after with
  | nil => exact ⟨List.append_nil digits, rfl⟩
  | cons c after =>
    have hc : c.isDigit = false := by
      by_contra hdigit
      have hblank := hafter c List.mem_cons_self
      rw [isBlank_eq_false_of_isDigit (Bool.not_eq_false _ ▸ hdigit)] at hblank
      cases hblank
    simp [hc]

namespace Color

/-! ## How channels are written -/

/-- A channel may be written so: its digits with blanks around them. -/
def Spells (piece digits : Text) : Prop :=
  Text.IsNumeral digits ∧ ∃ before after, piece = before ++ (digits ++ after) ∧
    (∀ c ∈ before, isBlank c = true) ∧ ∀ c ∈ after, isBlank c = true

/-- Channels may be written so: one after the other with commas between them. -/
def Written (argument : Text) (channels : List Text) : Prop :=
  ∃ pieces, pieces ≠ [] ∧ argument = Text.join [','] pieces ∧ List.Forall₂ Spells pieces channels

theorem Spells.comma_not_mem {piece digits : Text} (h : Spells piece digits) : ',' ∉ piece := by
  obtain ⟨hdigits, before, after, rfl, hbefore, hafter⟩ := h
  simp only [List.mem_append, not_or]
  refine ⟨fun hmem ↦ ?_, fun hmem ↦ ?_, fun hmem ↦ ?_⟩
  · cases hbefore _ hmem
  · cases hdigits.digits _ hmem
  · cases hafter _ hmem

/-- A channel that is written as it may be is read. -/
theorem channel_of_spells {next : Option Char} {piece digits : Text} (h : Spells piece digits) :
    channel next piece = .ok digits := by
  obtain ⟨hdigits, before, after, rfl, hbefore, hafter⟩ := h
  obtain ⟨htake, hdrop⟩ := Text.span_digits hdigits.digits hafter
  have hblank : Text.trimStart after = [] := List.dropWhile_eq_nil_iff.mpr hafter
  obtain ⟨d, rest, rfl⟩ := List.exists_cons_of_ne_nil hdigits.nonempty
  have hstart : Text.trimStart (before ++ (d :: rest ++ after)) = d :: rest ++ after := by
    rw [Text.trimStart_blank_append hbefore]
    exact Text.trimStart_eq_self
      (isBlank_eq_false_of_isDigit (hdigits.digits d List.mem_cons_self))
  simp only [channel.eq_def, hstart, htake, hdrop, hblank]

/-- A channel that is read was written as it may be. -/
theorem spells_of_channel {next : Option Char} {piece digits : Text}
    (h : channel next piece = .ok digits) : Spells piece digits := by
  rw [channel.eq_def] at h
  dsimp only at h
  split at h
  case h_4 c tail hdigits hrest =>
    -- Had something visible followed the digits, the case before this one would have applied.
    have hafter : Text.trimStart ((Text.trimStart piece).dropWhile Char.isDigit) = [] := by
      by_contra hne
      obtain ⟨d, trimmed, htrim⟩ := List.exists_cons_of_ne_nil hne
      cases hdrop : (Text.trimStart piece).dropWhile Char.isDigit with
      | nil =>
        rw [hdrop] at htrim
        cases htrim
      | cons c after => exact hrest c after d trimmed hdrop htrim
    cases h
    refine ⟨⟨?_, fun c ↦ List.mem_takeWhile_imp⟩, piece.takeWhile isBlank, _, ?_,
      fun c ↦ List.mem_takeWhile_imp, List.dropWhile_eq_nil_iff.mp hafter⟩
    · rw [hdigits]
      exact List.cons_ne_nil c tail
    · rw [List.takeWhile_append_dropWhile, Text.trimStart, List.takeWhile_append_dropWhile]
  all_goals cases h

/-- **The channels that are accepted are those that are written as they may be.** -/
theorem channel_eq_ok_iff {next : Option Char} {piece digits : Text} :
    channel next piece = .ok digits ↔ Spells piece digits :=
  ⟨spells_of_channel, channel_of_spells⟩

/-- What follows a channel only matters if there is no channel. -/
theorem exists_channelsOfPieces_cons (piece : Text) (rest : List Text) :
    ∃ next, channelsOfPieces (piece :: rest) = (channel next piece >>= fun first ↦
      channelsOfPieces rest >>= fun others ↦ .ok (first :: others)) := by
  cases rest with
  | nil =>
    refine ⟨none, ?_⟩
    rw [channelsOfPieces, channelsOfPieces]
    cases channel none piece <;> rfl
  | cons second rest => exact ⟨some ',', rfl⟩

theorem channelsOfPieces_eq_ok_iff {pieces channels : List Text} :
    channelsOfPieces pieces = .ok channels ↔ List.Forall₂ Spells pieces channels := by
  induction pieces generalizing channels with
  | nil => simp [channelsOfPieces, eq_comm]
  | cons piece rest ih =>
    obtain ⟨next, hcons⟩ := exists_channelsOfPieces_cons piece rest
    rw [hcons, List.forall₂_cons_left_iff]
    simp only [bind_eq_ok_iff, channel_eq_ok_iff, ih, Except.ok.injEq, exists_and_left,
      @eq_comm _ channels]

/-- **The channels of an argument are those that it is written from.** -/
theorem channels_eq_ok_iff {argument : Text} {digits : List Text} :
    channels argument = .ok digits ↔ Written argument digits := by
  rw [channels, channelsOfPieces_eq_ok_iff]
  constructor
  · exact fun h ↦ ⟨_, Text.pieces_ne_nil _ _, (Text.join_pieces _ _).symm, h⟩
  · rintro ⟨pieces, hne, rfl, h⟩
    have hcomma : ∀ piece ∈ pieces, ',' ∉ piece := by
      intro piece hpiece
      obtain ⟨_, -, hspells⟩ := exists_mem_of_forall₂ h hpiece
      exact hspells.comma_not_mem
    rwa [Text.pieces_join hne hcomma]

/-! ## From channels to a color -/

/-- The values for red, green and blue that channels stand for; a single one stands for all. -/
inductive Levels : List Text → Nat → Nat → Nat → Prop
  | gray (digits : Text) :
      Levels [digits] (Text.value digits) (Text.value digits) (Text.value digits)
  | mixed (red green blue : Text) :
      Levels [red, green, blue] (Text.value red) (Text.value green) (Text.value blue)

theorem Levels.forall_le_iff {channels : List Text} {r g b : Nat} (h : Levels channels r g b) :
    (∀ digits ∈ channels, Text.value digits ≤ 255) ↔ r ≤ 255 ∧ g ≤ 255 ∧ b ≤ 255 := by
  cases h <;> simp

theorem level_eq_ok_iff {digits : Text} {n : Nat} :
    level digits = .ok n ↔ n = Text.value digits ∧ Text.value digits ≤ 255 := by
  rw [level]
  split <;> simp_all [eq_comm]

theorem mapM_level_eq_ok_iff {channels : List Text} {levels : List Nat} :
    channels.mapM level = .ok levels ↔
      levels = channels.map Text.value ∧ ∀ digits ∈ channels, Text.value digits ≤ 255 := by
  rw [mapM_eq_ok_iff]
  induction channels generalizing levels with
  | nil => simp [eq_comm]
  | cons digits rest ih =>
    cases levels with
    | nil => simp
    | cons n levels =>
      simp only [List.map_cons, List.cons.injEq, List.forall_mem_cons, level_eq_ok_iff, ih]
      tauto

theorem ofLevels_eq_ok_iff {channels : List Text} {color : Nat} :
    ofLevels (channels.map Text.value) = .ok color ↔
      ∃ r g b, Levels channels r g b ∧ color = pack r g b := by
  constructor
  · intro h
    match channels with
    | [digits] => exact ⟨_, _, _, .gray digits, (Except.ok.inj h).symm⟩
    | [red, green, blue] => exact ⟨_, _, _, .mixed red green blue, (Except.ok.inj h).symm⟩
  · rintro ⟨r, g, b, hlevels, rfl⟩
    cases hlevels <;> rfl

theorem read_of_written {argument : Text} {channels : List Text} (h : Written argument channels) :
    read argument = channels.mapM level >>= ofLevels := by
  rw [read, channels_eq_ok_iff.mpr h]
  rfl

theorem read_eq_ok_iff {argument : Text} {color : Nat} :
    read argument = .ok color ↔ ∃ channels r g b, Written argument channels ∧
      Levels channels r g b ∧ (r ≤ 255 ∧ g ≤ 255 ∧ b ≤ 255) ∧ color = pack r g b := by
  constructor
  · intro h
    obtain ⟨channels, hchannels, hread⟩ := bind_eq_ok_iff.mp h
    obtain ⟨levels, hlevels, hcolor⟩ := bind_eq_ok_iff.mp hread
    obtain ⟨rfl, hle⟩ := mapM_level_eq_ok_iff.mp hlevels
    obtain ⟨r, g, b, hrgb, rfl⟩ := ofLevels_eq_ok_iff.mp hcolor
    exact ⟨channels, r, g, b, channels_eq_ok_iff.mp hchannels, hrgb, hrgb.forall_le_iff.mp hle, rfl⟩
  · rintro ⟨channels, r, g, b, hwritten, hrgb, hle, rfl⟩
    rw [read_of_written hwritten, mapM_level_eq_ok_iff.mpr ⟨rfl, hrgb.forall_le_iff.mpr hle⟩]
    exact ofLevels_eq_ok_iff.mpr ⟨r, g, b, hrgb, rfl⟩

/-- What the channels of an argument stand for can be told from the color. -/
theorem pack_of_read {argument : Text} {channels : List Text} {r g b color : Nat}
    (hwritten : Written argument channels) (hrgb : Levels channels r g b)
    (h : read argument = .ok color) :
    color / 0x10000 = r ∧ color / 0x100 % 0x100 = g ∧ color % 0x100 = b := by
  rw [read_of_written hwritten] at h
  obtain ⟨levels, hlevels, hcolor⟩ := bind_eq_ok_iff.mp h
  obtain ⟨rfl, hle⟩ := mapM_level_eq_ok_iff.mp hlevels
  obtain ⟨hr, hg, hb⟩ := hrgb.forall_le_iff.mp hle
  have hpack : ofLevels (channels.map Text.value) = .ok (pack r g b) :=
    ofLevels_eq_ok_iff.mpr ⟨r, g, b, hrgb, rfl⟩
  cases hpack.symm.trans hcolor
  rw [pack]
  omega

/-- **The first channel that is out of range is reported**, however many channels there are. -/
theorem read_eq_outOfRange {argument digits : Text} {before after : List Text}
    (h : Written argument (before ++ digits :: after))
    (hbefore : ∀ earlier ∈ before, Text.value earlier ≤ 255) (hdigits : 255 < Text.value digits) :
    read argument = .error (.outOfRange digits) := by
  have hlevel : level digits = .error (.outOfRange digits) := if_neg (Nat.not_le_of_lt hdigits)
  have hlevels : ∀ earlier ∈ before, ∃ n, level earlier = .ok n := fun earlier hearlier ↦
    ⟨_, level_eq_ok_iff.mpr ⟨rfl, hbefore earlier hearlier⟩⟩
  rw [read_of_written h, mapM_eq_error hlevels hlevel]
  rfl

theorem read_eq_wrongCount {argument : Text} {channels : List Text} (h : Written argument channels)
    (hle : ∀ digits ∈ channels, Text.value digits ≤ 255) (hone : channels.length ≠ 1)
    (hthree : channels.length ≠ 3) : read argument = .error (.wrongCount channels.length) := by
  rw [read_of_written h, mapM_level_eq_ok_iff.mpr ⟨rfl, hle⟩]
  match channels with
  | [] => rfl
  | [_] => exact absurd rfl hone
  | [_, _] => rfl
  | [_, _, _] => exact absurd rfl hthree
  | _ :: _ :: _ :: _ :: _ => simp [ofLevels, bind, Except.bind]

/-- **Which arguments are colors.**  They have one channel or three, with commas between them, each
a run of digits with blanks around it and at most 255.  A color has 24 bits, from which the three
values can be told.

Of an argument that is made of such channels, but with one too large, the first of these is reported
with its digits, even if there are too few or too many of them.  That is reported only if none is
too large. -/
theorem read_grammar (argument : Text) :
    (∀ color, read argument = .ok color ↔ ∃ channels r g b, Written argument channels ∧
      Levels channels r g b ∧ (r ≤ 255 ∧ g ≤ 255 ∧ b ≤ 255) ∧
        color = r * 65536 + g * 256 + b) ∧
    (∀ channels r g b color, Written argument channels → Levels channels r g b →
      read argument = .ok color → color ≤ 0xFFFFFF ∧
        r = color / 65536 ∧ g = color / 256 % 256 ∧ b = color % 256) ∧
    (∀ before digits after, Written argument (before ++ digits :: after) →
      (∀ earlier ∈ before, Text.value earlier ≤ 255) → 255 < Text.value digits →
        read argument = .error (.outOfRange digits)) ∧
    ∀ channels, Written argument channels → (∀ digits ∈ channels, Text.value digits ≤ 255) →
      channels.length ≠ 1 → channels.length ≠ 3 →
        read argument = .error (.wrongCount channels.length) := by
  refine ⟨fun color ↦ read_eq_ok_iff, fun channels r g b color hwritten hrgb hread ↦ ?_,
    fun _ _ _ ↦ read_eq_outOfRange, fun _ ↦ read_eq_wrongCount⟩
  obtain ⟨hr, hg, hb⟩ := pack_of_read hwritten hrgb hread
  exact ⟨le_of_read hread, hr.symm, hg.symm, hb.symm⟩

/-- Zeros in front and blanks do not count, and of four channels the second one is too large. -/
theorem read_grammar_padded :
    (∃ channels, Written "\u2003007, 00128\t,255" channels ∧ Levels channels 7 128 255 ∧
      read "\u2003007, 00128\t,255" = .ok 0x0780FF ∧
      0x0780FF ≤ 0xFFFFFF ∧ 7 = 0x0780FF / 65536 ∧ 128 = 0x0780FF / 256 % 256) ∧
    (Written "1, 0256,999,0" (["1"] ++ "0256" :: ["999", "0"]) ∧
      read "1, 0256,999,0" = .error (.outOfRange "0256")) ∧
    Written "1,255" ["1", "255"] ∧ read "1,255" = .error (.wrongCount 2) := by
  have hwritten : Written "\u2003007, 00128\t,255" ["007", "00128", "255"] :=
    channels_eq_ok_iff.mp (by decide)
  have hlevels : Levels ["007", "00128", "255"] 7 128 255 := .mixed "007" "00128" "255"
  have hlarge : Written "1, 0256,999,0" (["1"] ++ "0256" :: ["999", "0"]) :=
    channels_eq_ok_iff.mp (by decide)
  have htwo : Written "1,255" ["1", "255"] := channels_eq_ok_iff.mp (by decide)
  obtain ⟨hread, hback, -⟩ := read_grammar "\u2003007, 00128\t,255"
  have hcolor : read "\u2003007, 00128\t,255" = .ok 0x0780FF :=
    (hread _).mpr ⟨_, 7, 128, 255, hwritten, hlevels, by decide, by decide⟩
  obtain ⟨hle, hred, hgreen, -⟩ := hback _ _ _ _ _ hwritten hlevels hcolor
  refine ⟨⟨_, hwritten, hlevels, hcolor, hle, hred, hgreen⟩, ⟨hlarge, ?_⟩, htwo, ?_⟩
  · obtain ⟨-, -, hrange, -⟩ := read_grammar "1, 0256,999,0"
    exact hrange _ _ _ hlarge (by decide) (by decide)
  · obtain ⟨-, -, -, hcount⟩ := read_grammar "1,255"
    exact hcount _ htwo (by decide) (by decide) (by decide)

end Color
end ChatEmbed
