import DhcpRelay.Library.Readers
import DhcpRelay.Net

/-!
# DhcpRelay.NetText

**What becomes of the text of an address when it is cut at its first colon.** An IPv4
socket address survives: the text before the colon is its IP address
(`parse_beforeColon`). The text of an IPv6 address does not: with the port 547 put behind
what is left of it, it is no socket address (`parse_cut_ipv6`).
-/

namespace DhcpRelay

open DhcpRelay.Library

/-- `<Ipv6Addr as FromStr>::from_str`. -/
def Ipv6Addr.parse (s : List Char) : Option Ipv6Addr := Parse.whole Parse.ipv6 s

/-- A textual form of an IPv6 address: bare, in brackets, or in brackets with a port (and
with a scope, where the grammar of socket addresses has one). -/
inductive Ipv6Addr.TextualForm (ip : Ipv6Addr) : List Char → Prop
  | bare {s} (h : parse s = some ip) : TextualForm ip s
  | bracketed {s} (h : parse s = some ip) : TextualForm ip ('[' :: s ++ [']'])
  | withPort {s} {port : UInt16} {flowinfo scopeId : UInt32}
      (h : SocketAddr.parse s = some (.v6 ip port flowinfo scopeId)) : TextualForm ip s

namespace Parse

theorem whole_eq_some {α : Type} {p : List Char → Option (α × List Char)} {s : List Char} {a : α}
    (h : whole p s = some a) : p s = some (a, []) := by
  unfold whole at h
  split at h
  · next hp =>
      obtain rfl := Option.some.inj h
      exact hp
  · simp at h

/-! ### Cutting at a colon -/

section

variable {s : List Char}

theorem givenChar_cuts {c : Char} (h : c ≠ ':') : SkipCuts (· ≠ ':') (givenChar c) := by
  intro s
  cases s with
  | nil => rfl
  | cons d s =>
      by_cases hd : d = ':'
      · subst hd
        simp [givenChar, Ne.symm h]
      · rw [List.takeWhile_cons_of_pos (by simpa using hd), givenChar, givenChar]
        split <;> rfl

theorem number_cuts {radix : Nat} (h : toDigit radix ':' = none) (maxDigits : Option Nat)
    (allowZeroPrefix : Bool) (bound : Nat) :
    Cuts (· ≠ ':') (number radix maxDigits allowZeroPrefix bound) := by
  intro s
  have hdigit : ∀ c, (toDigit radix c).isSome = true → decide (c ≠ ':') = true := by
    intro c hc
    simp only [ne_eq, decide_not, Bool.not_eq_true', decide_eq_false_iff_not]
    intro hcolon
    simp [hcolon, h] at hc
  simp only [number, takeWhile_takeWhile_of_imp hdigit, dropWhile_takeWhile_of_imp hdigit]
  split
  · rfl
  · split
    · rfl
    · split
      · rfl
      · split <;> rfl

/-- An IPv4 address has no colon. -/
theorem ipv4_cuts : Cuts (· ≠ ':') ipv4 := by
  have hoctet : Cuts (· ≠ ':') (number 10 (some 3) false 256) :=
    number_cuts (by decide) (some 3) false 256
  have hdot : SkipCuts (· ≠ ':') (givenChar '.') := givenChar_cuts (by decide)
  exact hoctet.bind fun a => hdot.bind <| hoctet.bind fun b => hdot.bind <|
    hoctet.bind fun c => hdot.bind <| hoctet.bind fun d =>
      .return (Ipv4Addr.mk (UInt8.ofNat a) (UInt8.ofNat b) (UInt8.ofNat c) (UInt8.ofNat d))

theorem ipv4_beforeColon (s : List Char) :
    ipv4 (beforeColon s) = (ipv4 s).map fun x => (x.1, beforeColon x.2) := ipv4_cuts s

theorem ipv4_bracket (s : List Char) : ipv4 ('[' :: s) = none := by
  have hoctet : number 10 (some 3) false 256 ('[' :: s) = none := by
    simp [number, show toDigit 10 '[' = none by decide]
  simp [ipv4, hoctet]

end

/-! ### What the readers take -/

section

variable {s rest : List Char}

/-- The characters of an IPv6 address. -/
def addressChar (c : Char) : Bool := (toDigit 16 c).isSome || c == ':' || c == '.'

theorem givenChar_eq_some {c : Char} (h : givenChar c s = some rest) : s = c :: rest := by
  cases s with
  | nil => simp [givenChar] at h
  | cons d s =>
      rw [givenChar] at h
      split at h
      · next hd =>
          obtain rfl := Option.some.inj h
          rw [hd]
      · simp at h

theorem number_took {radix bound value : Nat} {maxDigits : Option Nat} {allowZeroPrefix : Bool}
    (h : number radix maxDigits allowZeroPrefix bound s = some (value, rest)) :
    Took (fun c => (toDigit radix c).isSome = true) s rest := by
  simp only [number] at h
  split at h
  · simp at h
  · split at h
    · simp at h
    · split at h
      · simp at h
      · split at h
        · obtain rfl := congrArg Prod.snd (Option.some.inj h)
          exact Took.dropWhile _ s
        · simp at h

/-- Decimal digits are hexadecimal ones. -/
theorem addressChar_of_decimal {c : Char} (h : (toDigit 10 c).isSome = true) :
    addressChar c = true := by
  unfold toDigit at h
  split at h
  · next hc => simp [addressChar, toDigit, hc]
  · simp at h

theorem addressChar_of_hex {c : Char} (h : (toDigit 16 c).isSome = true) :
    addressChar c = true := by
  simp [addressChar, h]

theorem ipv4_took {ip : Ipv4Addr} (h : ipv4 s = some (ip, rest)) :
    Took (fun c => addressChar c = true) s rest := by
  have hoctet : ∀ {s rest : List Char} {value : Nat},
      number 10 (some 3) false 256 s = some (value, rest) →
        Took (fun c => addressChar c = true) s rest :=
    fun h => (number_took h).mono fun _ => addressChar_of_decimal
  have hdot : ∀ {s rest : List Char}, givenChar '.' s = some rest →
      Took (fun c => addressChar c = true) s rest := by
    intro s rest h
    rw [givenChar_eq_some h]
    exact (Took.refl _ rest).cons (by decide)
  simp only [ipv4, Option.bind_eq_bind, Option.bind_eq_some_iff] at h
  obtain ⟨⟨a, s₁⟩, ha, s₂, hdot₁, ⟨b, s₃⟩, hb, s₄, hdot₂, ⟨c, s₅⟩, hc, s₆, hdot₃, ⟨d, s₇⟩, hd,
    hip⟩ := h
  obtain rfl : s₇ = rest := congrArg Prod.snd (Option.some.inj hip)
  exact (((((hoctet ha).trans (hdot hdot₁)).trans (hoctet hb)).trans (hdot hdot₂)).trans
    (hoctet hc)).trans ((hdot hdot₃).trans (hoctet hd))

theorem separator_eq_some {c : Char} {first : Bool} (h : separator c first s = some rest) :
    s = (if first then [] else [c]) ++ rest := by
  cases first with
  | true => exact Option.some.inj h
  | false => exact givenChar_eq_some h

/-- **What is taken for groups**: characters of an address, and a colon before every
group but the first. A group is one number, or an IPv4 address for two. -/
theorem groups_took (slots : Nat) (first : Bool) (s : List Char) :
    ∃ used, s = used ++ (groups slots first s).2.2 ∧ (∀ c ∈ used, addressChar c = true)
      ∧ ((if first then 2 else 0) < (groups slots first s).1.length → ':' ∈ used) := by
  induction slots generalizing first s with
  | zero => exact ⟨[], rfl, by simp, by simp [groups]⟩
  | succ slots ih =>
      let sep : List Char := if first then [] else [':']
      have hsepChar : ∀ c ∈ sep, addressChar c = true := by
        cases first <;> simp [sep, addressChar]
      have hsepColon : first = false → ':' ∈ sep := by
        intro hfirst
        simp [sep, hfirst]
      rw [groups]
      split
      · -- two groups, written as an IPv4 address
        next ip rest hip =>
          obtain ⟨s', hseparator, hip⟩ : ∃ s', separator ':' first s = some s'
              ∧ ipv4 s' = some (ip, rest) := by
            split at hip
            · exact Option.bind_eq_some_iff.mp hip
            · simp at hip
          obtain ⟨used, rfl, hused⟩ := ipv4_took hip
          refine ⟨sep ++ used, ?_, ?_, ?_⟩
          · rw [separator_eq_some hseparator, List.append_assoc]
          · intro c hc
            exact (List.mem_append.mp hc).elim (hsepChar c) (hused c)
          · intro hlen
            cases first with
            | true => simp at hlen
            | false => exact List.mem_append_left used (hsepColon rfl)
      · split
        · exact ⟨[], rfl, by simp, by simp⟩
        · -- one group, and those behind it
          next group rest hgroup =>
            obtain ⟨s', hseparator, hnumber⟩ := Option.bind_eq_some_iff.mp hgroup
            obtain ⟨used, rfl, hused⟩ := number_took hnumber
            obtain ⟨more, hmore, hmoreChar, hmoreColon⟩ := ih false rest
            refine ⟨sep ++ (used ++ more), ?_, ?_, ?_⟩
            · rw [separator_eq_some hseparator, List.append_assoc, List.append_assoc, ← hmore]
            · intro c hc
              rcases List.mem_append.mp hc with hc | hc
              · exact hsepChar c hc
              · exact (List.mem_append.mp hc).elim (fun hc => addressChar_of_hex (hused c hc))
                  (hmoreChar c)
            · intro hlen
              cases first with
              | true =>
                  have hbehind : ':' ∈ more := hmoreColon (by simp at hlen ⊢; omega)
                  exact List.mem_append_right sep (List.mem_append_right used hbehind)
              | false => exact List.mem_append_left _ (hsepColon rfl)

/-- **The text of an IPv6 address**: characters of an address, a colon among them. -/
theorem ipv6_used {ip : Ipv6Addr} (h : ipv6 s = some (ip, rest)) :
    ∃ used, s = used ++ rest ∧ (∀ c ∈ used, addressChar c = true) ∧ ':' ∈ used := by
  obtain ⟨used, hused, hchars, hcolon⟩ := groups_took 8 true s
  simp only [ipv6] at h
  split at h
  · next height =>
      obtain rfl : (groups 8 true s).2.2 = rest := congrArg Prod.snd (Option.some.inj h)
      exact ⟨used, hused, hchars, hcolon (by simp [height])⟩
  · split at h
    · simp at h
    · simp only [Option.bind_eq_bind, Option.bind_eq_some_iff] at h
      obtain ⟨s₁, hfirst, s₂, hsecond, htail⟩ := h
      obtain ⟨more, hmore, hmoreChars, -⟩ :=
        groups_took (7 - (groups 8 true s).1.length) true s₂
      obtain rfl := congrArg Prod.snd (Option.some.inj htail)
      refine ⟨used ++ (':' :: ':' :: more), ?_, ?_, by simp⟩
      · rw [List.append_assoc, List.cons_append, List.cons_append, ← hmore,
          ← givenChar_eq_some hsecond, ← givenChar_eq_some hfirst, ← hused]
      · intro c hc
        simp only [List.mem_append, List.mem_cons] at hc
        rcases hc with hc | rfl | rfl | hc
        · exact hchars c hc
        · decide
        · decide
        · exact hmoreChars c hc

/-- It does not begin with an IPv4 address. -/
theorem ipv4_of_ipv6 {x : Ipv6Addr × List Char} (h : ipv6 s = some x) : ipv4 s = none := by
  cases hip : ipv4 s with
  | none => rfl
  | some y =>
      have hgroups : groups 8 true s = ([be16 y.1.a y.1.b, be16 y.1.c y.1.d], true, y.2) := by
        simp [groups, separator, hip]
      simp [ipv6, hgroups] at h

/-- A reader of a socket address of IPv6 wants a closing bracket. -/
theorem socketAddrV6_bracket {x : SocketAddr × List Char} (h : socketAddrV6 s = some x) :
    ']' ∈ s := by
  simp only [socketAddrV6, Option.bind_eq_bind, Option.bind_eq_some_iff] at h
  obtain ⟨s₁, hopen, ⟨ip, s₂⟩, hip, s₃, hclose, -⟩ := h
  obtain ⟨used, rfl, -, -⟩ := ipv6_used hip
  have hscope : (scopeId s₂).2 ⊆ s₂ := by
    unfold scopeId
    split
    · next hid =>
        obtain ⟨s₄, hpercent, hnumber⟩ := Option.bind_eq_some_iff.mp hid
        rw [givenChar_eq_some hpercent]
        exact List.Subset.trans (number_took hnumber).subset (List.subset_cons_self _ _)
    · exact List.Subset.refl _
  rw [givenChar_eq_some hopen]
  refine List.mem_cons_of_mem _ (List.mem_append_right used (hscope ?_))
  rw [givenChar_eq_some hclose]
  exact List.mem_cons_self

/-! ### Socket addresses -/

theorem socketAddrV4_inv {addr : SocketAddr} (h : socketAddrV4 s = some (addr, rest)) :
    ∃ ip port behind, addr = .v4 ip port ∧ ipv4 s = some (ip, ':' :: behind) := by
  simp only [socketAddrV4, Option.bind_eq_bind, Option.bind_eq_some_iff] at h
  obtain ⟨⟨ip, s₁⟩, hip, ⟨p, s₂⟩, hport, haddr⟩ := h
  simp only [port, Option.bind_eq_bind, Option.bind_eq_some_iff] at hport
  obtain ⟨s₃, hcolon, -⟩ := hport
  obtain rfl := givenChar_eq_some hcolon
  exact ⟨ip, p, s₃, (congrArg Prod.fst (Option.some.inj haddr)).symm, hip⟩

theorem socketAddrV6_inv {addr : SocketAddr} (h : socketAddrV6 s = some (addr, rest)) :
    ∃ ip port flowinfo scopeId inner behind, addr = .v6 ip port flowinfo scopeId
      ∧ s = '[' :: inner ∧ ipv6 inner = some (ip, behind) := by
  simp only [socketAddrV6, Option.bind_eq_bind, Option.bind_eq_some_iff] at h
  obtain ⟨s₁, hopen, ⟨ip, s₂⟩, hip, s₃, -, ⟨p, s₄⟩, -, haddr⟩ := h
  exact ⟨ip, p, 0, (scopeId s₂).1, s₁, s₂, (congrArg Prod.fst (Option.some.inj haddr)).symm,
    givenChar_eq_some hopen, hip⟩

end

end Parse

section

variable {s : List Char} {port : UInt16}

/-- The text of a socket address is one of IPv4 or one of IPv6. -/
theorem SocketAddr.parse_inv {addr : SocketAddr} (h : parse s = some addr) :
    (∃ ip port behind, addr = .v4 ip port ∧ Parse.ipv4 s = some (ip, ':' :: behind))
      ∨ ∃ ip port flowinfo scopeId inner behind, addr = .v6 ip port flowinfo scopeId
        ∧ s = '[' :: inner ∧ Parse.ipv6 inner = some (ip, behind) := by
  rcases Option.or_eq_some_iff.mp (Parse.whole_eq_some h) with hv4 | ⟨-, hv6⟩
  · exact .inl (Parse.socketAddrV4_inv hv4)
  · exact .inr (Parse.socketAddrV6_inv hv6)

/-- **The text before the colon** of an IPv4 socket address is its IP address. -/
theorem Ipv4Addr.parse_beforeColon {ip : Ipv4Addr} (h : SocketAddr.parse s = some (.v4 ip port)) :
    Ipv4Addr.parse (beforeColon s) = some ip := by
  rcases SocketAddr.parse_inv h with ⟨ip', port', behind, haddr, hip⟩ | ⟨_, _, _, _, _, _, haddr, -⟩
  · obtain ⟨rfl, rfl⟩ : ip = ip' ∧ port = port' := by simpa using haddr
    have hcut : beforeColon (':' :: behind) = [] := by simp [beforeColon]
    rw [parse, Parse.whole, Parse.ipv4_beforeColon, hip, Option.map_some, hcut]
  · simp at haddr

/-- That of an IPv6 socket address is no address. -/
theorem Ipv4Addr.parse_beforeColon_v6 {ip : Ipv6Addr} {flowinfo scopeId : UInt32}
    (h : SocketAddr.parse s = some (.v6 ip port flowinfo scopeId)) :
    Ipv4Addr.parse (beforeColon s) = none := by
  rcases SocketAddr.parse_inv h with ⟨_, _, _, haddr, -⟩ | ⟨_, _, _, _, inner, _, -, rfl, -⟩
  · simp at haddr
  · rw [parse, Parse.whole, Parse.ipv4_beforeColon, Parse.ipv4_bracket]
    rfl

/-- What neither begins with an IPv4 address nor has a closing bracket. -/
theorem SocketAddr.parse_eq_none (hip : Parse.ipv4 s = none) (hbracket : ']' ∉ s) :
    parse s = none := by
  cases h : parse s with
  | none => rfl
  | some addr =>
      rcases Option.or_eq_some_iff.mp (Parse.whole_eq_some h) with hv4 | ⟨-, hv6⟩
      · obtain ⟨_, _, _, -, hip'⟩ := Parse.socketAddrV4_inv hv4
        simp [hip] at hip'
      · exact absurd (Parse.socketAddrV6_bracket hv6) hbracket

theorem beforeColon_append (hcolon : ':' ∈ s) (more : List Char) :
    beforeColon (s ++ more) = beforeColon s := by
  induction s with
  | nil => simp at hcolon
  | cons c s ih =>
      by_cases hc : c = ':'
      · simp [beforeColon, hc]
      · have hrest : ':' ∈ s := by simpa [Ne.symm hc] using hcolon
        have hkeep : ∀ t, beforeColon (c :: t) = c :: beforeColon t := by
          intro t
          simp [beforeColon, hc]
        rw [List.cons_append, hkeep, hkeep, ih hrest]

/-- The text before the colon is all of what stands before the next one. -/
theorem beforeColon_beforeColon (s more : List Char) :
    beforeColon (beforeColon s ++ ':' :: more) = beforeColon s := by
  have hkeep : ∀ c ∈ beforeColon s, (fun c : Char => decide (c ≠ ':')) c = true :=
    fun _ => List.mem_takeWhile_imp
  rw [beforeColon, List.takeWhile_append_of_pos hkeep, List.takeWhile_cons_of_neg (by simp),
    List.append_nil]

theorem bracket_not_mem_cut (hbracket : ']' ∉ s) :
    ']' ∉ beforeColon s ++ [':', '5', '4', '7'] := by
  intro h
  rcases List.mem_append.mp h with h | h
  · exact hbracket ((List.takeWhile_prefix _).subset h)
  · exact absurd h (by decide)

/-- A text in brackets, cut inside the brackets. -/
theorem SocketAddr.parse_cut_bracket {used : List Char} (hcolon : ':' ∈ used)
    (hbracket : ']' ∉ used) (more : List Char) :
    parse (beforeColon ('[' :: (used ++ more)) ++ [':', '5', '4', '7']) = none := by
  have hcut : beforeColon ('[' :: (used ++ more)) = '[' :: beforeColon used := by
    have hkeep : beforeColon ('[' :: (used ++ more)) = '[' :: beforeColon (used ++ more) := by
      simp [beforeColon]
    rw [hkeep, beforeColon_append hcolon]
  rw [hcut, List.cons_append]
  refine parse_eq_none (Parse.ipv4_bracket _) ?_
  rw [List.mem_cons, not_or]
  exact ⟨by decide, bracket_not_mem_cut hbracket⟩

/-- **The text of an IPv6 address, cut at its first colon**, is no part of a socket
address. -/
theorem SocketAddr.parse_cut_ipv6 {ip : Ipv6Addr} (h : ip.TextualForm s) :
    parse (beforeColon s ++ [':', '5', '4', '7']) = none := by
  have hbracket : ∀ {used : List Char}, (∀ c ∈ used, Parse.addressChar c = true) → ']' ∉ used :=
    fun hchars hmem => absurd (hchars _ hmem) (by decide)
  cases h with
  | bare h =>
      have hread := Parse.whole_eq_some h
      obtain ⟨used, hused, hchars, -⟩ := Parse.ipv6_used hread
      obtain rfl : s = used := by simpa using hused
      have hip : (Parse.ipv4 (beforeColon s ++ [':', '5', '4', '7'])).map
          (fun x => (x.1, beforeColon x.2)) = none := by
        rw [← Parse.ipv4_beforeColon, beforeColon_beforeColon, Parse.ipv4_beforeColon,
          Parse.ipv4_of_ipv6 hread]
        rfl
      exact parse_eq_none (Option.map_eq_none_iff.mp hip) (bracket_not_mem_cut (hbracket hchars))
  | bracketed h =>
      obtain ⟨used, hused, hchars, hcolon⟩ := Parse.ipv6_used (Parse.whole_eq_some h)
      rw [List.append_nil] at hused
      subst hused
      exact parse_cut_bracket hcolon (hbracket hchars) [']']
  | withPort h =>
      rcases parse_inv h with ⟨_, _, _, haddr, -⟩ | ⟨_, _, _, _, inner, behind, -, rfl, hread⟩
      · simp at haddr
      · obtain ⟨used, rfl, hchars, hcolon⟩ := Parse.ipv6_used hread
        exact parse_cut_bracket hcolon (hbracket hchars) behind

end

end DhcpRelay
