import EndpointPlatform.Network.Targets

/-!
# The two target policies agree

What the host name pattern accepts, said label by label, and from it the targets each policy allows:
the same ones, for the same reasons, under every configuration.
-/

namespace EndpointPlatform.Network

open Lib Lib.Pattern

/-! ## Host names -/

/-- A label: one to sixty-three letters, digits and hyphens, the first and the last no hyphen. -/
structure WellFormedLabel (l : Text) : Prop where
  length_le : l.length ≤ 63
  chars : ∀ c ∈ l, asciiAlnum c = true ∨ c = '-'
  first : ∃ c, l.head? = some c ∧ asciiAlnum c = true
  last : ∃ c, l.getLast? = some c ∧ asciiAlnum c = true

/-- The text `x` is the host name `host`, with at most one dot behind it. -/
structure HostText (x host : Text) : Prop where
  dot : x = host ∨ x = host ++ ['.']
  length_le : x.length ≤ 253
  labels : ∀ l ∈ host.splitOn '.', WellFormedLabel l

/-- The labels of `host` are some labels followed by those of the suffix, which starts with a
dot. -/
def ProperSubdomain (host suffix : Text) : Prop :=
  ∃ front, front ≠ [] ∧ host.splitOn '.' = front ++ (suffix.drop 1).splitOn '.'

theorem mem_alnum (c : Char) : c ∈ alnum ↔ asciiAlnum c = true := by
  constructor
  · have hall : ∀ d ∈ alnum, asciiAlnum d = true := List.forall_iff_forall_mem.mp (by decide)
    exact hall c
  · intro h
    have hsmall : c.toNat < 123 := by
      unfold asciiAlnum at h
      simp only [Bool.or_eq_true, Bool.and_eq_true, decide_eq_true_eq] at h
      obtain (h | h) | h := h
      · exact Nat.lt_succ_of_le (show c.toNat ≤ 'z'.toNat from h.2)
      · exact lt_of_le_of_lt (show c.toNat ≤ 'Z'.toNat from h.2) (by decide)
      · exact lt_of_le_of_lt (show c.toNat ≤ '9'.toNat from h.2) (by decide)
    have hall : ∀ n < 123, asciiAlnum (Char.ofNat n) = true → Char.ofNat n ∈ alnum := by
      decide +kernel
    have hc := hall c.toNat hsmall
    rw [Char.ofNat_toNat] at hc
    exact hc h

theorem mem_alnumHyphen (c : Char) : c ∈ alnumHyphen ↔ asciiAlnum c = true ∨ c = '-' := by
  unfold alnumHyphen
  rw [List.mem_append, mem_alnum, List.mem_singleton]

/-- The label pattern matches the well-formed labels. -/
theorem label_rmatch (x : Text) : label.rmatch x ↔ WellFormedLabel x := by
  unfold label
  rw [RegularExpression.mul_rmatch_iff]
  constructor
  · rintro ⟨t, u, rfl, ht, hu⟩
    obtain ⟨c, hc, rfl⟩ := (oneOf_rmatch _ t).mp ht
    have hcalnum := (mem_alnum c).mp hc
    obtain rfl | hu := (opt_rmatch _ u).mp hu
    · refine ⟨by simp, ?_, ⟨c, rfl, hcalnum⟩, ⟨c, rfl, hcalnum⟩⟩
      intro d hd
      obtain rfl : d = c := by simpa using hd
      exact .inl hcalnum
    · obtain ⟨m, v, rfl, hm, hv⟩ := (RegularExpression.mul_rmatch_iff _ _ u).mp hu
      obtain ⟨hlen, hall⟩ := (upTo_oneOf_rmatch _ _ m).mp hm
      obtain ⟨d, hd, rfl⟩ := (oneOf_rmatch _ v).mp hv
      have hdalnum := (mem_alnum d).mp hd
      refine ⟨by simp; omega, ?_, ⟨c, rfl, hcalnum⟩, ⟨d, ?_, hdalnum⟩⟩
      · intro e he
        obtain rfl | he : e = c ∨ e ∈ m ++ [d] := by simpa using he
        · exact .inl hcalnum
        · obtain he | he := List.mem_append.mp he
          · exact (mem_alnumHyphen e).mp (hall e he)
          · obtain rfl := List.mem_singleton.mp he
            exact .inl hdalnum
      · rw [← List.append_assoc, List.getLast?_append]
        rfl
  · rintro ⟨hlen, hchars, ⟨c, hc, hcalnum⟩, ⟨d, hd, hdalnum⟩⟩
    -- The first character, and the rest with its last one split off.
    cases x with
    | nil => cases hc
    | cons a rest =>
      obtain rfl : a = c := by simpa using hc
      refine ⟨[a], rest, rfl, (oneOf_rmatch _ _).mpr ⟨a, (mem_alnum a).mpr hcalnum, rfl⟩, ?_⟩
      rw [opt_rmatch]
      obtain rfl | ⟨m, b, rfl⟩ := List.eq_nil_or_concat' rest
      · exact .inl rfl
      · have hbd : b = d := by
          rw [← List.cons_append, List.getLast?_append] at hd
          simpa using hd
        refine .inr ((RegularExpression.mul_rmatch_iff _ _ _).mpr ⟨m, [b], rfl, ?_, ?_⟩)
        · refine (upTo_oneOf_rmatch _ _ m).mpr ⟨by simp at hlen; omega, fun e he => ?_⟩
          exact (mem_alnumHyphen e).mpr (hchars e (by simp [he]))
        · exact (oneOf_rmatch _ _).mpr ⟨b, (mem_alnum b).mpr (hbd ▸ hdalnum), rfl⟩

theorem WellFormedLabel.no_dot {l : Text} (h : WellFormedLabel l) : '.' ∉ l := by
  intro hdot
  obtain halnum | hhyphen := h.chars '.' hdot
  · exact absurd halnum (by decide)
  · exact absurd hhyphen (by decide)

/-- Labels with dots between them: what `label(?:\.label)*` matches. -/
theorem labels_rmatch (x : Text) :
    (label * moreLabels).rmatch x ↔ ∀ l ∈ x.splitOn '.', WellFormedLabel l := by
  unfold moreLabels
  rw [RegularExpression.mul_rmatch_iff]
  constructor
  · rintro ⟨l, u, rfl, hl, hu⟩
    obtain ⟨parts, rfl, hparts⟩ := (led_star_rmatch _ _ u).mp hu
    have hall : ∀ p ∈ l :: parts, WellFormedLabel p := by
      intro p hp
      obtain rfl | hp := List.mem_cons.mp hp
      · exact (label_rmatch p).mp hl
      · exact (label_rmatch p).mp (hparts p hp)
    rw [← intercalate_cons, List.splitOn_intercalate '.' (fun p hp => (hall p hp).no_dot) (by simp)]
    exact hall
  · intro hall
    obtain ⟨l, parts, hsplit⟩ := List.exists_cons_of_ne_nil (List.splitOn_ne_nil '.' x)
    rw [hsplit] at hall
    refine ⟨l, parts.flatMap ('.' :: ·), ?_, (label_rmatch l).mpr (hall l (by simp)), ?_⟩
    · rw [← intercalate_cons, ← hsplit, List.intercalate_splitOn]
    · exact (led_star_rmatch _ _ _).mpr
        ⟨parts, rfl, fun p hp => (label_rmatch p).mpr (hall p (List.mem_cons_of_mem l hp))⟩

/-- The characters of a host name with well-formed labels. -/
theorem HostText.chars {x host : Text} (h : HostText x host) :
    ∀ c ∈ x, c ∈ alnumHyphen ++ ['.'] := by
  have hhost : ∀ c ∈ host, c ∈ alnumHyphen ++ ['.'] := by
    intro c hc
    have hjoin : ['.'].intercalate (host.splitOn '.') = host := List.intercalate_splitOn '.'
    rw [← hjoin] at hc
    obtain ⟨l, parts, hsplit⟩ := List.exists_cons_of_ne_nil (List.splitOn_ne_nil '.' host)
    have hlabels := h.labels
    have hlabel : ∀ p ∈ l :: parts, ∀ d ∈ p, d ∈ alnumHyphen ++ ['.'] := fun p hp d hd =>
      List.mem_append_left _ ((mem_alnumHyphen d).mpr ((hlabels p (hsplit ▸ hp)).chars d hd))
    rw [hsplit, intercalate_cons] at hc
    obtain hc | hc := List.mem_append.mp hc
    · exact hlabel l (by simp) c hc
    · obtain ⟨p, hp, hcp⟩ := List.mem_flatMap.mp hc
      obtain rfl | hcp := List.mem_cons.mp hcp
      · exact List.mem_append_right _ (List.mem_singleton.mpr rfl)
      · exact hlabel p (List.mem_cons_of_mem l hp) c hcp
  intro c hc
  obtain rfl | rfl := h.dot
  · exact hhost c hc
  · obtain hc | hc := List.mem_append.mp hc
    · exact hhost c hc
    · exact List.mem_append_right _ hc

theorem HostText.last {x host : Text} (h : HostText x host) :
    ∃ c, host.getLast? = some c ∧ asciiAlnum c = true := by
  obtain ⟨front, l, hsplit⟩ : ∃ front l, host.splitOn '.' = front ++ [l] := by
    obtain hnil | ⟨front, l, heq⟩ := List.eq_nil_or_concat' (host.splitOn '.')
    · exact absurd hnil (List.splitOn_ne_nil '.' host)
    · exact ⟨front, l, heq⟩
  obtain ⟨c, hc, halnum⟩ := (h.labels l (by simp [hsplit])).last
  refine ⟨c, ?_, halnum⟩
  have hjoin : ['.'].intercalate (host.splitOn '.') = host := List.intercalate_splitOn '.'
  rw [← hjoin, hsplit]
  cases front with
  | nil => rwa [List.nil_append, List.intercalate_singleton]
  | cons p front =>
    rw [List.cons_append, intercalate_cons, List.flatMap_append, ← List.append_assoc,
      List.getLast?_append]
    simp [List.getLast?_cons, hc]

theorem hostChar_facts : ∀ c ∈ alnumHyphen ++ ['.'], isSpace c = false ∧ isAscii c = true ∧
    c ≠ '/' ∧ c ≠ '@' ∧ c ≠ '\n' :=
  List.forall_iff_forall_mem.mp (by decide)

/-- The host name pattern accepts the well-formed host names, with at most one dot behind. -/
theorem hostnamePattern_iff (x : Text) : hostnamePattern x = true ↔ ∃ host, HostText x host := by
  unfold hostnamePattern
  rw [Bool.and_eq_true, Bool.and_eq_true, decide_eq_true_eq, RegularExpression.mul_rmatch_iff]
  constructor
  · rintro ⟨⟨⟨-, hlen⟩, -⟩, host, u, rfl, hhost, hu⟩
    refine ⟨host, ?_, hlen, (labels_rmatch host).mp hhost⟩
    obtain rfl | hu := (opt_rmatch _ u).mp hu
    · exact .inl (List.append_nil host)
    · rw [RegularExpression.char_rmatch_iff] at hu
      exact .inr (by rw [hu])
  · rintro ⟨host, h⟩
    refine ⟨⟨⟨?_, h.length_le⟩, ?_⟩, ?_⟩
    · obtain ⟨c, hc, -⟩ := h.last
      have hpos := List.length_pos_of_mem (List.mem_of_getLast? hc)
      obtain rfl | rfl := h.dot
      · exact hpos
      · rw [List.length_append]
        omega
    · rw [Bool.not_eq_true', List.contains_eq_mem, decide_eq_false_iff_not]
      exact fun hmem => (hostChar_facts _ (h.chars _ hmem)).2.2.2.2 rfl
    · obtain rfl | rfl := h.dot
      · exact ⟨x, [], (List.append_nil x).symm, (labels_rmatch x).mpr h.labels,
          (opt_rmatch _ _).mpr (.inl rfl)⟩
      · exact ⟨host, ['.'], rfl, (labels_rmatch host).mpr h.labels,
          (opt_rmatch _ _).mpr (.inr ((RegularExpression.char_rmatch_iff _ _).mpr rfl))⟩

theorem HostText.clean {x host : Text} (h : HostText x host) :
    x = strip isSpace x ∧ hasUrlPart x = false := by
  have hslash : '/' ∉ x := fun hmem => (hostChar_facts _ (h.chars _ hmem)).2.2.1 rfl
  refine ⟨(strip_of_forall fun c hc => (hostChar_facts c (h.chars c hc)).1).symm, ?_⟩
  have hat : '@' ∉ x := fun hmem => (hostChar_facts _ (h.chars _ hmem)).2.2.2.1 rfl
  have hscheme : ¬ [':', '/', '/'] <:+: x := fun hinf => hslash (hinf.subset (by simp))
  simp [hasUrlPart, hslash, hat, hscheme]

variable {Address Subnet : Type} (ip : Ipaddress Address Subnet) (unicodeLower : Text → Text)

theorem HostText.compared {x host : Text} (h : HostText x host) :
    rstrip '.' (lower unicodeLower x) = host.map Char.toLower := by
  have hascii : x.all isAscii = true :=
    List.all_eq_true.mpr fun c hc => (hostChar_facts c (h.chars c hc)).2.1
  have hend : rstrip '.' (host.map Char.toLower) = host.map Char.toLower := by
    apply rstrip_of_last
    obtain ⟨c, hc, halnum⟩ := h.last
    have hlower : ∀ d ∈ alnum, d.toLower ≠ '.' :=
      List.forall_iff_forall_mem.mp (by decide)
    intro d hd
    rw [List.getLast?_map, hc] at hd
    obtain rfl : c.toLower = d := by simpa using hd
    exact hlower c ((mem_alnum c).mpr halnum)
  unfold lower
  rw [if_pos hascii]
  obtain rfl | rfl := h.dot
  · exact hend
  · rw [List.map_append]
    exact (rstrip_append '.' _).trans hend

/-! ## Configurations -/

theorem mapM_ok_congr {α β ε ε' : Type} {f : α → Except ε β} {g : α → Except ε' β}
    (h : ∀ x y, f x = .ok y ↔ g x = .ok y) (xs : List α) (ys : List β) :
    xs.mapM f = .ok ys ↔ xs.mapM g = .ok ys := by
  induction xs generalizing ys with
  | nil => simp
  | cons x xs ih =>
    rw [List.mapM_cons, List.mapM_cons, bind_eq_ok, bind_eq_ok]
    refine exists_congr fun y => and_congr (h x y) ?_
    rw [bind_eq_ok, bind_eq_ok]
    exact exists_congr fun rest => and_congr (ih rest) (by simp)

theorem mem_of_mapM_ok {α β ε : Type} {f : α → Except ε β} {xs : List α} {ys : List β}
    (h : xs.mapM f = .ok ys) {y : β} (hy : y ∈ ys) : ∃ x ∈ xs, f x = .ok y := by
  induction xs generalizing ys with
  | nil =>
    obtain rfl : [] = ys := by simpa using h
    cases hy
  | cons x xs ih =>
    rw [List.mapM_cons, bind_eq_ok] at h
    obtain ⟨z, hz, h⟩ := h
    rw [bind_eq_ok] at h
    obtain ⟨zs, hzs, h⟩ := h
    obtain rfl : z :: zs = ys := by simpa using h
    obtain rfl | hy := List.mem_cons.mp hy
    · exact ⟨x, by simp, hz⟩
    · obtain ⟨w, hw, hfw⟩ := ih hzs hy
      exact ⟨w, List.mem_cons_of_mem x hw, hfw⟩

theorem fromValues_agree (allowedCidrs allowedSuffixes : List Text) (cidrs : List Subnet)
    (names : List Text) :
    NetworkTargetPolicyV1.fromValues ip unicodeLower allowedCidrs allowedSuffixes =
        .ok ⟨cidrs, names⟩ ↔
      AgentNetworkProbePolicy.fromValues ip unicodeLower allowedCidrs allowedSuffixes =
        .ok ⟨cidrs, names⟩ := by
  have hnames : ∀ result, normalizedSuffixes unicodeLower allowedSuffixes = .ok result ↔
      suffixes unicodeLower allowedSuffixes = .ok result := by
    intro result
    unfold normalizedSuffixes suffixes
    rw [bind_eq_ok, bind_eq_ok]
    refine exists_congr fun values => and_congr (mapM_ok_congr (fun x y => ?_) _ _) Iff.rfl
    simp only [bind_eq_ok, require_eq_ok, pure_eq_ok, exists_const, and_assoc]
  unfold NetworkTargetPolicyV1.fromValues AgentNetworkProbePolicy.fromValues
  rw [bind_eq_ok, bind_eq_ok]
  refine exists_congr fun result => and_congr Iff.rfl ?_
  rw [bind_eq_ok, bind_eq_ok]
  refine exists_congr fun result' => and_congr (hnames result') ?_
  rw [pure_eq_ok, pure_eq_ok, NetworkTargetPolicyV1.mk.injEq, AgentNetworkProbePolicy.mk.injEq]

/-- An allowed suffix starts with a dot. -/
theorem suffix_dotted {allowedCidrs allowedSuffixes : List Text} {p : NetworkTargetPolicyV1 Subnet}
    (h : NetworkTargetPolicyV1.fromValues ip unicodeLower allowedCidrs allowedSuffixes = .ok p)
    {suffix : Text} (hsuffix : suffix ∈ p.allowedSuffixes) : ∃ d, suffix = '.' :: d := by
  unfold NetworkTargetPolicyV1.fromValues at h
  rw [bind_eq_ok] at h
  obtain ⟨cidrs, -, h⟩ := h
  rw [bind_eq_ok] at h
  obtain ⟨names, hnames, h⟩ := h
  obtain rfl := (pure_eq_ok _ _).mp h
  unfold normalizedSuffixes at hnames
  rw [bind_eq_ok] at hnames
  obtain ⟨normalized, hmap, hdedup⟩ := hnames
  obtain rfl := (pure_eq_ok _ _).mp hdedup
  obtain ⟨value, -, hvalue⟩ := mem_of_mapM_ok hmap (List.mem_eraseDups.mp hsuffix)
  simp only [bind_eq_ok, require_eq_ok, pure_eq_ok, exists_const] at hvalue
  obtain ⟨-, hpattern, rfl⟩ := hvalue
  unfold suffixPattern at hpattern
  obtain ⟨t, u, htext, ht, -⟩ := (RegularExpression.mul_rmatch_iff _ _ _).mp hpattern
  obtain ⟨a, b, rfl, ha, -⟩ := (RegularExpression.mul_rmatch_iff _ _ t).mp ht
  rw [RegularExpression.char_rmatch_iff] at ha
  exact ⟨b ++ u, by rw [htext, ha]; rfl⟩

theorem below_suffix_iff (d host : Text) :
    (('.' :: d) <:+ host ∧ host ≠ ('.' :: d).drop 1) ↔ ProperSubdomain host ('.' :: d) := by
  unfold ProperSubdomain
  rw [List.drop_succ_cons, List.drop_zero, ← suffix_iff_splitOn]
  constructor
  · exact And.left
  · intro hsuffix
    refine ⟨hsuffix, ?_⟩
    rintro rfl
    have hlen := hsuffix.length_le
    rw [List.length_cons] at hlen
    omega

/-! ## Verdicts -/

theorem isForbiddenAddress_eq (address : Address) : isForbiddenAddress ip address =
    (ip.isLoopback address || ip.isUnspecified address || ip.isMulticast address ||
      ip.isLinkLocal address || ip.isBroadcast address) := by
  unfold isForbiddenAddress
  split_ifs with h
  · rw [h, Bool.true_or]
  · rw [Bool.not_eq_true] at h
    rw [h, Bool.false_or]

/-- The server's verdict on a target is the agent's, with the same code. -/
theorem requireAllowed_agree (p : NetworkTargetPolicyV1 Subnet) (target : Text) :
    p.requireAllowed ip unicodeLower target =
      AgentNetworkProbePolicy.requireAllowed ip unicodeLower ⟨p.allowedCidrs, p.allowedSuffixes⟩
        target := by
  unfold NetworkTargetPolicyV1.requireAllowed AgentNetworkProbePolicy.requireAllowed parseTarget
  by_cases hconfigured : p.allowedCidrs = [] ∧ p.allowedSuffixes = []
  · rw [if_pos hconfigured, if_pos hconfigured]
  rw [if_neg hconfigured, if_neg hconfigured]
  by_cases hclean : target ≠ strip isSpace target ∨ hasUrlPart target = true
  · rw [if_pos hclean, if_pos hclean]
    rfl
  rw [if_neg hclean, if_neg hclean]
  cases ip.ipAddress target with
  | some address =>
    simp only [bind, Except.bind, isForbiddenAddress_eq]
  | none =>
    by_cases hpattern : hostnamePattern target = false
    · simp only [if_pos hpattern]
      rfl
    · simp only [if_neg hpattern]
      rfl

/-- A target that is no address is allowed exactly when it is a host name below an allowed
suffix. -/
theorem host_allowed_iff {allowedCidrs allowedSuffixes : List Text}
    {p : NetworkTargetPolicyV1 Subnet}
    (hp : NetworkTargetPolicyV1.fromValues ip unicodeLower allowedCidrs allowedSuffixes = .ok p)
    {target : Text} (hname : ip.ipAddress target = none) :
    p.requireAllowed ip unicodeLower target = .ok () ↔
      ∃ host, HostText target host ∧
        ∃ suffix ∈ p.allowedSuffixes, ProperSubdomain (host.map Char.toLower) suffix := by
  rw [requireAllowed_agree]
  unfold AgentNetworkProbePolicy.requireAllowed
  simp only [hname]
  constructor
  · intro hallowed
    split_ifs at hallowed with hconfigured hclean hpattern hany
    obtain ⟨host, hhost⟩ := (hostnamePattern_iff target).mp (by simpa using hpattern)
    refine ⟨host, hhost, ?_⟩
    obtain ⟨suffix, hmem, hsuffix⟩ := List.any_eq_true.mp hany
    rw [decide_eq_true_eq, hhost.compared] at hsuffix
    obtain ⟨d, rfl⟩ := suffix_dotted ip unicodeLower hp hmem
    exact ⟨_, hmem, (below_suffix_iff d _).mp hsuffix⟩
  · rintro ⟨host, hhost, suffix, hmem, hbelow⟩
    have hconfigured : ¬ (p.allowedCidrs = [] ∧ p.allowedSuffixes = []) := by
      rintro ⟨-, hnil⟩
      rw [hnil] at hmem
      cases hmem
    have hclean : ¬ (target ≠ strip isSpace target ∨ hasUrlPart target = true) := by
      rintro (htrim | hurl)
      · exact htrim hhost.clean.1
      · rw [hhost.clean.2] at hurl
        cases hurl
    have hpattern : ¬ hostnamePattern target = false := by
      rw [(hostnamePattern_iff target).mpr ⟨host, hhost⟩]
      simp
    obtain ⟨d, rfl⟩ := suffix_dotted ip unicodeLower hp hmem
    have hany : p.allowedSuffixes.any (fun suffix =>
        suffix <:+ rstrip '.' (lower unicodeLower target) ∧
          rstrip '.' (lower unicodeLower target) ≠ suffix.drop 1) = true := by
      refine List.any_eq_true.mpr ⟨_, hmem, ?_⟩
      rw [decide_eq_true_eq, hhost.compared]
      exact (below_suffix_iff d _).mpr hbelow
    simp only [if_neg hconfigured, if_neg hclean, if_neg hpattern, if_pos hany]

/-- The addresses no policy allows. -/
def Unreachable (address : Address) : Prop :=
  ip.isLoopback address = true ∨ ip.isLinkLocal address = true ∨ ip.isMulticast address = true ∨
    ip.isUnspecified address = true ∨ ip.isBroadcast address = true

theorem unreachable_refused (p : NetworkTargetPolicyV1 Subnet) {target : Text} {address : Address}
    (haddress : ip.ipAddress target = some address) (h : Unreachable ip address) :
    p.requireAllowed ip unicodeLower target ≠ .ok () := by
  rw [requireAllowed_agree]
  unfold AgentNetworkProbePolicy.requireAllowed
  rw [haddress]
  have hforbidden : (ip.isLoopback address || ip.isUnspecified address || ip.isMulticast address ||
      ip.isLinkLocal address || ip.isBroadcast address) = true := by
    obtain h | h | h | h | h := h <;> simp [h]
  intro hallowed
  simp only [hforbidden, if_true] at hallowed
  split_ifs at hallowed

/-- The two policies accept the same configurations; under each of them they answer every target
alike and with the same code, allow a target that is no address exactly when it is a host name below
an allowed suffix, and never allow an address of a forbidden kind. -/
theorem policies_agree (allowedCidrs allowedSuffixes : List Text) (target : Text) :
    (∀ (cidrs : List Subnet) (names : List Text),
      NetworkTargetPolicyV1.fromValues ip unicodeLower allowedCidrs allowedSuffixes =
          .ok ⟨cidrs, names⟩ ↔
        AgentNetworkProbePolicy.fromValues ip unicodeLower allowedCidrs allowedSuffixes =
          .ok ⟨cidrs, names⟩) ∧
    ∀ p : NetworkTargetPolicyV1 Subnet,
      NetworkTargetPolicyV1.fromValues ip unicodeLower allowedCidrs allowedSuffixes = .ok p →
      p.requireAllowed ip unicodeLower target =
          AgentNetworkProbePolicy.requireAllowed ip unicodeLower
            ⟨p.allowedCidrs, p.allowedSuffixes⟩ target ∧
        (ip.ipAddress target = none → (p.requireAllowed ip unicodeLower target = .ok () ↔
          ∃ host, HostText target host ∧
            ∃ suffix ∈ p.allowedSuffixes, ProperSubdomain (host.map Char.toLower) suffix)) ∧
        ∀ address, ip.ipAddress target = some address → Unreachable ip address →
          p.requireAllowed ip unicodeLower target ≠ .ok () := by
  refine ⟨fromValues_agree ip unicodeLower allowedCidrs allowedSuffixes, fun p hp => ?_⟩
  exact ⟨requireAllowed_agree ip unicodeLower p target, host_allowed_iff ip unicodeLower hp,
    fun address haddress h => unreachable_refused ip unicodeLower p haddress h⟩

/-- Addresses and networks as numbers, for the loopback address and its network. -/
def sampleIpaddress : Ipaddress ℕ ℕ where
  ipAddress value := if value = "127.0.0.1".toList then some 0x7f000001 else none
  ipNetwork value := if value = "127.0.0.0/8".toList then some 0x7f else none
  isLoopback address := address / 2 ^ 24 == 127
  isUnspecified address := address == 0
  isMulticast address := address / 2 ^ 28 == 14
  isLinkLocal address := address / 2 ^ 16 == 0xa9fe
  isBroadcast address := address == 0xffffffff
  contains subnet address := address / 2 ^ 24 == subnet

/-- With the loopback network and one suffix allowed, a host below the suffix is allowed and the
loopback address is not. -/
theorem policies_agree_sample :
    let p : NetworkTargetPolicyV1 ℕ := ⟨[0x7f], [".example.com".toList]⟩
    p.requireAllowed sampleIpaddress id "Host.Example.com.".toList = .ok () ∧
      p.requireAllowed sampleIpaddress id "127.0.0.1".toList ≠ .ok () := by
  have hp : NetworkTargetPolicyV1.fromValues sampleIpaddress id ["127.0.0.0/8".toList]
      [".Example.com".toList] = .ok ⟨[0x7f], [".example.com".toList]⟩ := by decide
  constructor
  · have hagree := (policies_agree sampleIpaddress id ["127.0.0.0/8".toList]
      [".Example.com".toList] "Host.Example.com.".toList).2 _ hp
    refine (hagree.2.1 (by decide)).mpr ⟨"Host.Example.com".toList, ?_, _,
      List.mem_singleton.mpr rfl, ?_⟩
    · refine ⟨.inr rfl, by decide, ?_⟩
      exact (labels_rmatch _).mp (by decide +kernel)
    · exact ⟨["host".toList], by decide, by decide⟩
  · have hagree := (policies_agree sampleIpaddress id ["127.0.0.0/8".toList]
      [".Example.com".toList] "127.0.0.1".toList).2 _ hp
    exact hagree.2.2 0x7f000001 (by decide) (.inl (by decide))

end EndpointPlatform.Network
