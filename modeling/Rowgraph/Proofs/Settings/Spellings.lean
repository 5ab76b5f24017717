import Rowgraph.Locator
import Rowgraph.Proofs.Text.Reading
import Rowgraph.Proofs.Text.Trimming

/-!
# Spellings of a connection string

A server and a database (`Site`) can be named in many ways (`Site.Writes`): by any of the keys in any case, with
blanks around keys and values, with the protocol in front of the host and a port behind it, and with other pieces of
any kind between, before and behind. All of them are read as the same place, and a text without a pair for the host is
refused (`parse_spellings`). There is one exception. A host that has the name of the protocol cannot have a port
behind a colon and no protocol in front: the host is then taken for the protocol and the port for the host
(`not_parse_protocolName`).
-/

set_option autoImplicit false

namespace Rowgraph.Locator

open Unicode

/-! ## What may be written -/

/-- The keys of a pair for the host. -/
def hostNames : List String := ["Server", "Data Source", "Address", "Addr"]

/-- The keys of a pair for the database. -/
def databaseNames : List String := ["Database", "Initial Catalog"]

/-- Is it one of the keys, in any case and with any blanks around it? -/
def Spells (names : List String) (key : List Char) : Prop :=
  ∃ name ∈ names, ∃ word, Pads key word ∧ word.map Char.toLower = name.toList.map Char.toLower

/-- What may stand in front of a host. -/
def protocols : List (List Char) := ["".toList, "tcp:".toList, "TCP:".toList]

/-- Is it a way to write a host, with the protocol before it or not, and with a port behind it or not? -/
inductive HostValue (host : List Char) : List Char → Prop
  | bare {protocol : List Char} (known : protocol ∈ protocols) : HostValue host (protocol ++ host)
  | comma {protocol : List Char} (known : protocol ∈ protocols) (port : List Char) :
      HostValue host (protocol ++ (host ++ ',' :: port))
  | colon {protocol port : List Char} (known : protocol ∈ protocols) (digits : ∀ c ∈ port, c.isDigit = true) :
      HostValue host (protocol ++ (host ++ ':' :: port))

/-- Is it a pair for the host? -/
inductive HostPair (host piece : List Char) : Prop
  | mk {key padded value : List Char} (cut : piece = key ++ '=' :: padded) (spelled : Spells hostNames key)
      (pads : Pads padded value) (written : HostValue host value)

/-- Is it a pair for the database? -/
inductive DatabasePair (database piece : List Char) : Prop
  | mk {key padded : List Char} (cut : piece = key ++ '=' :: padded) (spelled : Spells databaseNames key)
      (pads : Pads padded database)

/-- Does the piece say nothing about the place? It is no pair at all, or has another key. -/
inductive Other (piece : List Char) : Prop
  | segment (unpaired : '=' ∉ piece)
  | pair {key value : List Char} (cut : piece = key ++ '=' :: value) (first : '=' ∉ key)
      (unlike : ¬ Spells (hostNames ++ databaseNames) key)

/-- A server and, if any is named, a database on it. -/
structure Site where
  host : List Char
  database : Option (List Char) := none
  host_ne_nil : host ≠ []
  isTrimmed_host : IsTrimmed host
  unmarked : ';' ∉ host ∧ ',' ∉ host ∧ ':' ∉ host
  isDatabase : ∀ d ∈ database, d ≠ [] ∧ IsTrimmed d ∧ ';' ∉ d

/-- The pieces one behind the other, with semicolons between them. -/
def text (pieces : List (List Char)) : String := String.ofList ([';'].intercalate pieces)

/-- Do the pieces name the site? One of them is a pair for its host, one a pair for its database if it has any, and
the others say nothing about the place. They may stand in any order. -/
inductive Site.Writes (s : Site) (ps : List (List Char)) : Prop
  | server {p : List Char} {others : List (List Char)} (whole : ∀ q ∈ ps, ';' ∉ q) (order : ps.Perm (p :: others))
      (host : HostPair s.host p) (alone : s.database = none) (silent : ∀ q ∈ others, Other q)
  | database {p d name : List Char} {others : List (List Char)} (whole : ∀ q ∈ ps, ';' ∉ q)
      (order : ps.Perm (p :: d :: others)) (host : HostPair s.host p) (named : s.database = some name)
      (pair : DatabasePair name d) (silent : ∀ q ∈ others, Other q)

/-- Is no host that has the name of the protocol written with a port behind a colon and no protocol in front? -/
def Site.Clear (s : Site) (ps : List (List Char)) : Prop :=
  s.host = "tcp".toList ∨ s.host = "TCP".toList → ∀ key padded port, Spells hostNames key →
    (∀ c ∈ port, c.isDigit = true) → Pads padded (s.host ++ ':' :: port) → key ++ '=' :: padded ∉ ps

/-- The place of the site. -/
def Site.locator (s : Site) : Locator := ⟨String.ofList s.host, s.database.map String.ofList, none⟩

/-! ## Pieces and pairs -/

theorem pieces_eq_splitOn (mark : Char) (cs : List Char) : pieces mark cs = cs.splitOn mark := by
  induction cs with
  | nil => rfl
  | cons c cs ih =>
    rw [List.splitOn_eq_splitOnP, List.splitOnP_cons_eq_if_modifyHead, ← List.splitOn_eq_splitOnP, pieces, ih]
    by_cases hc : c = mark
    · rw [if_pos hc, if_pos (beq_iff_eq.2 hc)]
    · rw [if_neg hc, if_neg (mt beq_iff_eq.1 hc)]
      have hne : cs.splitOn mark ≠ [] := List.splitOn_ne_nil mark cs
      cases hsplit : cs.splitOn mark with
      | nil => exact absurd hsplit hne
      | cons piece more => rfl

theorem cutAt?_append {mark : Char} {before : List Char} (h : mark ∉ before) (behind : List Char) :
    cutAt? mark (before ++ mark :: behind) = some (before, behind) := by
  have hrun := bne_of_not_mem h
  have hstop := bne_head?_cons mark behind
  rw [cutAt?, dropWhile_run hrun hstop, takeWhile_run hrun hstop]

theorem cutAt?_eq_none {mark : Char} {cs : List Char} (h : mark ∉ cs) : cutAt? mark cs = none := by
  have hall : cs.dropWhile (fun c => c != mark) = [] := List.dropWhile_eq_nil_iff.2 (bne_of_not_mem h)
  rw [cutAt?, hall]

theorem pair?_append {key : List Char} (h : '=' ∉ key) (value : List Char) :
    pair? (key ++ '=' :: value) = some (lower (trim key), trim value) := by
  rw [pair?, cutAt?_append h]
  rfl

theorem pair?_eq_none {piece : List Char} (h : '=' ∉ piece) : pair? piece = none := by
  rw [pair?, cutAt?_eq_none h]
  rfl

/-! ## Keys -/

/-- Are the names trimmed, and without an equals sign? -/
def AreKeys (names : List String) : Prop :=
  ∀ name ∈ names, IsTrimmed (name.toList.map Char.toLower) ∧ '=' ∉ name.toList.map Char.toLower

theorem areKeys : AreKeys (hostNames ++ databaseNames) := by
  unfold AreKeys
  decide

theorem AreKeys.subset {names names' : List String} (h : AreKeys names) (hsub : names' ⊆ names) : AreKeys names' :=
  fun name hname => h name (hsub hname)

theorem areKeys_host : AreKeys hostNames := areKeys.subset (List.subset_append_left _ _)

theorem areKeys_database : AreKeys databaseNames := areKeys.subset (List.subset_append_right _ _)

variable {names : List String} {key piece : List Char}

/-- A key is looked at without its blanks and in lower case. -/
theorem spells_iff (h : AreKeys names) :
    Spells names key ↔ lower (trim key) ∈ names.map fun name => name.toList.map Char.toLower := by
  rw [List.mem_map]
  constructor
  · rintro ⟨name, hname, word, hpads, hword⟩
    have htrimmed : IsTrimmed word := by
      rw [← isTrimmed_toLower_iff, hword]
      exact (h name hname).1
    refine ⟨name, hname, ?_⟩
    rw [trim_of_pads hpads htrimmed, lower, hword]
  · rintro ⟨name, hname, hword⟩
    exact ⟨name, hname, trim key, pads_trim key, hword.symm⟩

theorem Spells.mark_not_mem (h : AreKeys names) (hkey : Spells names key) : '=' ∉ key := by
  obtain ⟨name, hname, word, ⟨before, behind, rfl, hbefore, hbehind⟩, hword⟩ := hkey
  have hblank : isBlank '=' ≠ true := by decide
  intro hmem
  rcases List.mem_append.1 hmem with hmem | hmem
  · exact hblank (hbefore _ hmem)
  · rcases List.mem_append.1 hmem with hmem | hmem
    · have hlower : '=' ∈ word.map Char.toLower := List.mem_map.2 ⟨'=', hmem, by decide⟩
      rw [hword] at hlower
      exact (h name hname).2 hlower
    · exact hblank (hbehind _ hmem)

/-- A pair with one of the keys is found by the key in lower case, with its value trimmed. -/
theorem Spells.pair? (h : AreKeys names) (hkey : Spells names key) (value : List Char) :
    ∃ found ∈ names.map fun name => name.toList.map Char.toLower,
      Locator.pair? (key ++ '=' :: value) = some (found, trim value) :=
  ⟨_, (spells_iff h).1 hkey, pair?_append (hkey.mark_not_mem h) value⟩

/-- The keys that are looked for are the names in lower case. -/
theorem hostKeys_eq : hostKeys = hostNames.map fun name => name.toList.map Char.toLower := by decide

theorem databaseKeys_eq : databaseKeys = databaseNames.map fun name => name.toList.map Char.toLower := by decide

/-! ## Pairs that are looked for -/

/-- The pairs with one of the keys. -/
def pairsFor (keys : List (List Char)) (ps : List (List Char)) : List (List Char × List Char) :=
  (ps.filterMap pair?).filter fun p => keys.contains p.1

/-- Is the piece no pair with one of the keys? -/
def Silent (keys : List (List Char)) (piece : List Char) : Prop := ∀ p ∈ pair? piece, p.1 ∉ keys

variable {keys ps qs : List (List Char)}

theorem pairsFor_cons_silent (h : Silent keys piece) (ps : List (List Char)) :
    pairsFor keys (piece :: ps) = pairsFor keys ps := by
  rw [pairsFor, List.filterMap_cons]
  cases hpair : pair? piece with
  | none => rfl
  | some p =>
    have hother : keys.contains p.1 = false := by
      rw [List.contains_eq_mem, decide_eq_false_iff_not]
      exact h p hpair
    dsimp only
    rw [List.filter_cons_of_neg (by rw [hother]; exact Bool.false_ne_true)]
    rfl

theorem pairsFor_cons_pair {p : List Char × List Char} (h : pair? piece = some p) (hkey : p.1 ∈ keys)
    (ps : List (List Char)) : pairsFor keys (piece :: ps) = p :: pairsFor keys ps := by
  rw [pairsFor, List.filterMap_cons, h]
  dsimp only
  have hfound : keys.contains p.1 = true := List.contains_iff_mem.2 hkey
  rw [List.filter_cons, if_pos hfound]
  rfl

theorem pairsFor_silent (h : ∀ p ∈ ps, Silent keys p) : pairsFor keys ps = [] := by
  induction ps with
  | nil => rfl
  | cons p ps ih =>
    rw [List.forall_mem_cons] at h
    rw [pairsFor_cons_silent h.1, ih h.2]

/-- A pair that is the only one of its kind is found wherever it stands. -/
theorem lastValue?_of_perm {p : List Char × List Char} (order : ps.Perm qs) (h : pairsFor keys qs = [p]) :
    lastValue? keys (ps.filterMap pair?) = some p.2 := by
  have hperm : (pairsFor keys ps).Perm [p] := h ▸ (order.filterMap pair?).filter _
  have hfound : (ps.filterMap pair?).filter (fun p => keys.contains p.1) = [p] := List.perm_singleton.1 hperm
  rw [lastValue?, hfound]
  rfl

theorem lastValue?_eq_none (order : ps.Perm qs) (h : pairsFor keys qs = []) :
    lastValue? keys (ps.filterMap pair?) = none := by
  have hperm : (pairsFor keys ps).Perm [] := h ▸ (order.filterMap pair?).filter _
  have hfound : (ps.filterMap pair?).filter (fun p => keys.contains p.1) = [] := hperm.eq_nil
  rw [lastValue?, hfound]
  rfl

theorem silent_of_not_spells (h : AreKeys names) (hkey : '=' ∉ key) (hnot : ¬ Spells names key) (value : List Char) :
    Silent (names.map fun name => name.toList.map Char.toLower) (key ++ '=' :: value) := by
  intro p hp
  rw [pair?_append hkey] at hp
  cases hp
  exact mt (spells_iff h).2 hnot

theorem Other.silent (h : Other piece) : Silent hostKeys piece ∧ Silent databaseKeys piece := by
  cases h with
  | segment unpaired =>
    have hnone : ∀ keys, Silent keys piece := by
      intro keys p hp
      rw [pair?_eq_none unpaired] at hp
      cases hp
    exact ⟨hnone _, hnone _⟩
  | @pair key value cut first unlike =>
    subst cut
    have hboth := silent_of_not_spells areKeys first unlike value
    rw [List.map_append, ← hostKeys_eq, ← databaseKeys_eq] at hboth
    exact ⟨fun p hp hmem => hboth p hp (List.mem_append_left _ hmem),
      fun p hp hmem => hboth p hp (List.mem_append_right _ hmem)⟩

/-! ## Hosts -/

/-- In front of a colon that the host does not have and the name cannot have reached, they are the same. -/
theorem eq_of_append_colon {host rest name tail : List Char} (hhost : ':' ∉ host)
    (hrest : ∀ c ∈ rest.head?, c ∉ name) (h : host ++ rest = name ++ ':' :: tail) :
    host = name ∧ rest = ':' :: tail := by
  rcases List.append_eq_append_iff.1 h with ⟨more, rfl, hmore⟩ | ⟨more, rfl, hmore⟩
  · cases more with
    | nil => exact ⟨(List.append_nil host).symm, hmore⟩
    | cons c more =>
      subst hmore
      exact absurd (List.mem_append_right host List.mem_cons_self) (hrest c rfl)
  · cases more with
    | nil => exact ⟨List.append_nil name, hmore.symm⟩
    | cons c more =>
      cases hmore
      exact absurd (List.mem_append_right name List.mem_cons_self) hhost

theorem withoutProtocol_eq_self {cs : List Char} (hlower : ∀ tail, cs ≠ "tcp".toList ++ ':' :: tail)
    (hupper : ∀ tail, cs ≠ "TCP".toList ++ ':' :: tail) : withoutProtocol cs = cs := by
  rw [withoutProtocol.eq_def]
  split
  · next tail => exact absurd rfl (hlower tail)
  · next tail => exact absurd rfl (hupper tail)
  · rfl

/-- The protocol is taken off; where there is none, nothing is. -/
theorem withoutProtocol_append {protocol rest : List Char} (known : protocol ∈ protocols)
    (hself : protocol = [] → withoutProtocol rest = rest) : withoutProtocol (protocol ++ rest) = rest := by
  simp only [protocols, List.mem_cons, List.not_mem_nil, or_false] at known
  rcases known with rfl | rfl | rfl
  · exact hself rfl
  · rfl
  · rfl

theorem withoutNumber_eq_self {cs : List Char} (h : ':' ∉ cs) : withoutNumber cs = cs := by
  rw [withoutNumber, cutAt?_eq_none (mt List.mem_reverse.1 h)]

/-- A number behind a colon is taken off. -/
theorem withoutNumber_append {host port : List Char} (digits : ∀ c ∈ port, c.isDigit = true) :
    withoutNumber (host ++ ':' :: port) = host := by
  have hport : ':' ∉ port.reverse := by
    intro hmem
    exact absurd (digits _ (List.mem_reverse.1 hmem)) (by decide)
  have hreversed : (host ++ ':' :: port).reverse = port.reverse ++ ':' :: host.reverse := by simp
  have hall : port.reverse.all Char.isDigit = true := by
    rw [List.all_reverse, List.all_eq_true]
    exact digits
  rw [withoutNumber, hreversed, cutAt?_append hport]
  dsimp only
  rw [if_pos hall, List.reverse_reverse]

section Values

variable {host protocol port padded value : List Char}

/-- In front of a host nothing is taken for the protocol, unless the host has its name and a colon is behind it. -/
theorem withoutProtocol_host (rest : List Char) (hcolon : ':' ∉ host)
    (hhead : ∀ c ∈ rest.head?, c ∉ "tcp".toList ∧ c ∉ "TCP".toList)
    (hrest : ∀ tail, rest = ':' :: tail → host ≠ "tcp".toList ∧ host ≠ "TCP".toList) :
    withoutProtocol (host ++ rest) = host ++ rest := by
  apply withoutProtocol_eq_self
  · intro tail heq
    obtain ⟨hname, htail⟩ := eq_of_append_colon hcolon (fun c hc => (hhead c hc).1) heq
    exact (hrest tail htail).1 hname
  · intro tail heq
    obtain ⟨hname, htail⟩ := eq_of_append_colon hcolon (fun c hc => (hhead c hc).2) heq
    exact (hrest tail htail).2 hname

variable (hcomma : ',' ∉ host) (hcolon : ':' ∉ host) (htrimmed : IsTrimmed host) (known : protocol ∈ protocols)

include hcomma hcolon htrimmed known

theorem host_bare : Locator.host (protocol ++ host) = host := by
  have hwhole := withoutProtocol_host [] hcolon (fun c hc => absurd hc (by simp))
    fun tail htail => absurd htail (by simp)
  rw [List.append_nil] at hwhole
  rw [Locator.host, withoutProtocol_append known fun _ => hwhole,
    List.takeWhile_eq_self_iff.2 (bne_of_not_mem hcomma), withoutNumber_eq_self hcolon, trim_of_isTrimmed htrimmed]

theorem host_comma (port : List Char) : Locator.host (protocol ++ (host ++ ',' :: port)) = host := by
  have hwhole := withoutProtocol_host (',' :: port) hcolon (by rintro c ⟨⟩; decide)
    fun tail htail => absurd htail (by simp)
  rw [Locator.host, withoutProtocol_append known fun _ => hwhole,
    takeWhile_run (bne_of_not_mem hcomma) (bne_head?_cons ',' port), withoutNumber_eq_self hcolon,
    trim_of_isTrimmed htrimmed]

theorem host_colon (digits : ∀ c ∈ port, c.isDigit = true)
    (hclear : protocol = [] → host ≠ "tcp".toList ∧ host ≠ "TCP".toList) :
    Locator.host (protocol ++ (host ++ ':' :: port)) = host := by
  have hwhole : protocol = [] → withoutProtocol (host ++ ':' :: port) = host ++ ':' :: port := fun hbare =>
    withoutProtocol_host _ hcolon (by rintro c ⟨⟩; decide) fun tail _ => hclear hbare
  have hport : ',' ∉ ':' :: port := by
    rw [List.mem_cons, not_or]
    exact ⟨by decide, fun hmem => absurd (digits _ hmem) (by decide)⟩
  have hfree : ',' ∉ host ++ ':' :: port := List.not_mem_append hcomma hport
  rw [Locator.host, withoutProtocol_append known hwhole, List.takeWhile_eq_self_iff.2 (bne_of_not_mem hfree),
    withoutNumber_append digits, trim_of_isTrimmed htrimmed]

omit hcomma hcolon in
/-- A host with the protocol before it is trimmed, and so is what ends with no blank behind it. -/
theorem isTrimmed_protocol (hne : host ≠ []) (tail : List Char) (htail : ∀ c ∈ tail.getLast?, isBlank c = false) :
    IsTrimmed (protocol ++ (host ++ tail)) := by
  constructor
  · have hfirst : ∀ c ∈ (host ++ tail).head?, isBlank c = false := by
      rw [List.head?_append_of_ne_nil host hne]
      exact htrimmed.first
    simp only [protocols, List.mem_cons, List.not_mem_nil, or_false] at known
    rcases known with rfl | rfl | rfl
    · exact hfirst
    · rintro c ⟨⟩
      decide
    · rintro c ⟨⟩
      decide
  · intro c hc
    rw [← List.append_assoc, List.getLast?_append] at hc
    cases hlast : tail.getLast? with
    | some d =>
      rw [hlast] at hc
      cases hc
      exact htail c hlast
    | none =>
      rw [hlast, Option.none_or, List.getLast?_append_of_ne_nil protocol hne] at hc
      exact htrimmed.last c hc

omit known in
/-- The host is found in every value that is written for it, with blanks around the value or not. -/
theorem host_trim (hne : host ≠ []) (h : HostValue host value) (hpads : Pads padded value)
    (hclear : host = "tcp".toList ∨ host = "TCP".toList → ∀ port, (∀ c ∈ port, c.isDigit = true) →
      value ≠ host ++ ':' :: port) : Locator.host (trim padded) = host := by
  cases h with
  | @bare protocol known =>
    have hwhole := isTrimmed_protocol htrimmed known hne [] fun c hc => absurd hc (by simp)
    rw [List.append_nil] at hwhole
    rw [trim_of_pads hpads hwhole, host_bare hcomma hcolon htrimmed known]
  | @comma protocol known port =>
    -- what is behind the comma may lose blanks at its end
    obtain ⟨before, behind, rfl, hbefore, -⟩ := hpads
    have hfront := isTrimmed_protocol htrimmed known hne [','] (by rintro c ⟨⟩; decide)
    obtain ⟨less, hless⟩ := exists_trim_append hbefore (by simp) hfront (port ++ behind)
    have hvalue : protocol ++ (host ++ ',' :: port) ++ behind =
        protocol ++ (host ++ [',']) ++ (port ++ behind) := by simp
    have hrest : protocol ++ (host ++ [',']) ++ less = protocol ++ (host ++ ',' :: less) := by simp
    rw [hvalue, hless, hrest, host_comma hcomma hcolon htrimmed known]
  | @colon protocol port known digits =>
    have hwhole := isTrimmed_protocol htrimmed known hne (':' :: port) (by
      intro c hc
      rcases List.mem_cons.1 (List.mem_of_getLast? hc) with rfl | hc
      · decide
      · exact isBlank_of_isDigit (digits c hc))
    rw [trim_of_pads hpads hwhole]
    refine host_colon hcomma hcolon htrimmed known digits ?_
    rintro rfl
    exact ⟨fun heq => hclear (Or.inl heq) port digits rfl, fun heq => hclear (Or.inr heq) port digits rfl⟩

end Values

/-! ## Reading a connection string -/

theorem disjoint_keys : ∀ key ∈ hostKeys, key ∉ databaseKeys := by decide

theorem silent_of_pair? {keys' : List (List Char)} {q : List Char × List Char} (h : pair? piece = some q)
    (hother : q.1 ∉ keys') : Silent keys' piece := by
  intro r hr
  rw [h] at hr
  cases hr
  exact hother

variable {s : Site}

theorem pair?_of_hostPair (h : HostPair s.host piece) (hpiece : piece ∈ ps) (hclear : s.Clear ps) :
    ∃ q, pair? piece = some q ∧ q.1 ∈ hostKeys ∧ Locator.host q.2 = s.host := by
  obtain ⟨rfl, spelled, pads, written⟩ := h
  obtain ⟨found, hfound, hpair⟩ := spelled.pair? areKeys_host _
  refine ⟨_, hpair, hostKeys_eq ▸ hfound, ?_⟩
  refine host_trim s.unmarked.2.1 s.unmarked.2.2 s.isTrimmed_host s.host_ne_nil written pads ?_
  rintro hname port digits rfl
  exact hclear hname _ _ port spelled digits pads hpiece

theorem pair?_of_databasePair {name : List Char} (h : DatabasePair name piece) (htrimmed : IsTrimmed name) :
    ∃ q, pair? piece = some q ∧ q.1 ∈ databaseKeys ∧ q.2 = name := by
  obtain ⟨rfl, spelled, pads⟩ := h
  obtain ⟨found, hfound, hpair⟩ := spelled.pair? areKeys_database _
  exact ⟨_, hpair, databaseKeys_eq ▸ hfound, trim_of_pads pads htrimmed⟩

/-- Pieces without a semicolon are found again between the semicolons. -/
theorem pieces_text (hne : ps ≠ []) (whole : ∀ p ∈ ps, ';' ∉ p) : pieces ';' (text ps).toList = ps := by
  rw [text, String.toList_ofList, pieces_eq_splitOn, List.splitOn_intercalate ';' whole hne]

/-- What is read is what the last pairs say. -/
theorem parse_text {value host : List Char} (hne : ps ≠ []) (whole : ∀ p ∈ ps, ';' ∉ p)
    (hvalue : lastValue? hostKeys (ps.filterMap pair?) = some value) (hhost : Locator.host value = host)
    (hnonempty : host ≠ []) : parse (text ps) = .ok ⟨String.ofList host,
      ((lastValue? databaseKeys (ps.filterMap pair?)).filter fun d => !d.isEmpty).map String.ofList, none⟩ := by
  rw [parse]
  dsimp only
  rw [pieces_text hne whole, hvalue, Option.map_some, hhost]
  cases host with
  | nil => exact absurd rfl hnonempty
  | cons c cs => rfl

theorem Site.Writes.parse_eq (h : s.Writes ps) (hclear : s.Clear ps) : parse (text ps) = .ok s.locator := by
  cases h with
  | @server p others whole order host alone silent =>
    have hmem : p ∈ ps := order.mem_iff.2 List.mem_cons_self
    obtain ⟨q, hpair, hkey, hhost⟩ := pair?_of_hostPair host hmem hclear
    have hvalue : lastValue? hostKeys (ps.filterMap pair?) = some q.2 := by
      apply lastValue?_of_perm order
      rw [pairsFor_cons_pair hpair hkey, pairsFor_silent fun o ho => (silent o ho).silent.1]
    have hnone : lastValue? databaseKeys (ps.filterMap pair?) = none := by
      apply lastValue?_eq_none order
      rw [pairsFor_cons_silent (silent_of_pair? hpair (disjoint_keys _ hkey)),
        pairsFor_silent fun o ho => (silent o ho).silent.2]
    rw [parse_text (List.ne_nil_of_mem hmem) whole hvalue hhost s.host_ne_nil, hnone, Site.locator, alone]
    rfl
  | @database p d name others whole order host named pair silent =>
    have hmem : p ∈ ps := order.mem_iff.2 List.mem_cons_self
    obtain ⟨hnonempty, htrimmed, -⟩ := s.isDatabase name named
    obtain ⟨q, hpair, hkey, hhost⟩ := pair?_of_hostPair host hmem hclear
    obtain ⟨r, hpair', hkey', hname⟩ := pair?_of_databasePair pair htrimmed
    have hvalue : lastValue? hostKeys (ps.filterMap pair?) = some q.2 := by
      apply lastValue?_of_perm order
      rw [pairsFor_cons_pair hpair hkey,
        pairsFor_cons_silent (silent_of_pair? hpair' fun hboth => disjoint_keys _ hboth hkey'),
        pairsFor_silent fun o ho => (silent o ho).silent.1]
    have hdatabase : lastValue? databaseKeys (ps.filterMap pair?) = some name := by
      rw [← hname]
      apply lastValue?_of_perm order
      rw [pairsFor_cons_silent (silent_of_pair? hpair (disjoint_keys _ hkey)), pairsFor_cons_pair hpair' hkey',
        pairsFor_silent fun o ho => (silent o ho).silent.2]
    have hkept : (some name).filter (fun d => !d.isEmpty) = some name := by
      rw [Option.filter_some, List.isEmpty_eq_false_iff.2 hnonempty]
      rfl
    rw [parse_text (List.ne_nil_of_mem hmem) whole hvalue hhost s.host_ne_nil, hdatabase, hkept, Site.locator, named]

/-- Is it a pair with a key for the host, whatever its value is? -/
def NamesHost (piece : List Char) : Prop :=
  ∃ key value, piece = key ++ '=' :: value ∧ Spells hostNames key

/-- A piece that is no such pair is passed over when the host is looked for. -/
theorem silent_iff : Silent hostKeys piece ↔ ¬ NamesHost piece := by
  constructor
  · rintro hsilent ⟨key, value, rfl, hkey⟩
    obtain ⟨found, hfound, hpair⟩ := hkey.pair? areKeys_host value
    exact hsilent _ hpair (hostKeys_eq ▸ hfound)
  · intro h
    by_cases hmark : '=' ∈ piece
    · obtain ⟨key, value, rfl, hcut⟩ := List.eq_append_cons_of_mem hmark
      rw [hostKeys_eq]
      exact silent_of_not_spells areKeys_host hcut (fun hkey => h ⟨key, value, rfl, hkey⟩) value
    · intro q hq
      rw [pair?_eq_none hmark] at hq
      cases hq

theorem parse_of_silent {cs : String} (h : ∀ p ∈ cs.toList.splitOn ';', ¬ NamesHost p) :
    parse cs = .error noServer := by
  have hnone : lastValue? hostKeys ((cs.toList.splitOn ';').filterMap pair?) = none :=
    lastValue?_eq_none (List.Perm.refl _) (pairsFor_silent fun p hp => silent_iff.2 (h p hp))
  rw [parse]
  dsimp only
  rw [pieces_eq_splitOn, hnone]
  rfl

/-- Every text that names a site is read as the place of the site, unless the host has the name of the protocol and
is taken for it; two texts that name one site are therefore on one server and in one database; and a text without a
pair for the host is refused. -/
theorem parse_spellings :
    (∀ (s : Site) ps, s.Writes ps → s.Clear ps → parse (text ps) = .ok s.locator) ∧
    (∀ (s : Site) ps qs, s.Writes ps → s.Clear ps → s.Writes qs → s.Clear qs →
      ∃ l l', parse (text ps) = .ok l ∧ parse (text qs) = .ok l' ∧ l.sameServer l' = true ∧
        l.sameDatabase l' = true) ∧
    ∀ cs : String, (∀ p ∈ cs.toList.splitOn ';', ¬ NamesHost p) → parse cs = .error noServer := by
  refine ⟨fun s ps h hclear => h.parse_eq hclear, ?_, fun cs h => parse_of_silent h⟩
  intro s ps qs hps hclear hqs hclear'
  refine ⟨s.locator, s.locator, hps.parse_eq hclear, hqs.parse_eq hclear', beq_self_eq_true _, ?_⟩
  rw [Site.locator, sameDatabase]
  cases s.database with
  | none => rfl
  | some name => exact beq_self_eq_true _

/-- An instance and a database on it. -/
def instanceSite : Site where
  host := "db01\\SQL".toList
  database := some "Sales East".toList
  host_ne_nil := by decide
  isTrimmed_host := by decide
  unmarked := by decide
  isDatabase := by
    rintro d ⟨⟩
    exact ⟨by decide, by decide, by decide⟩

/-- Two spellings of the same place, and a text that names a database only. -/
theorem parse_spellings_instance :
    let ps := [" SERVER =\ttcp:db01\\SQL, 1433 ".toList, "Trusted_Connection=True".toList,
      "Initial Catalog=Sales East".toList]
    let qs := ["".toList, "database = Sales East".toList, "Encrypt".toList, "Addr=db01\\SQL:1433".toList]
    instanceSite.Writes ps ∧ instanceSite.Writes qs ∧ parse (text ps) = .ok ⟨"db01\\SQL", some "Sales East", none⟩ ∧
      (∃ l l', parse (text ps) = .ok l ∧ parse (text qs) = .ok l' ∧ l.sameServer l' = true ∧
        l.sameDatabase l' = true) ∧
      parse "Database=Sales East;;" = .error noServer := by
  intro ps qs
  have htcp : "tcp:".toList ∈ protocols := by decide
  have hbare : "".toList ∈ protocols := by decide
  have hport : ∀ c ∈ "1433".toList, c.isDigit = true := List.all_eq_true.1 (by decide)
  have hclear : ∀ rs, instanceSite.Clear rs := fun rs hname => absurd hname (by decide)
  have hps : instanceSite.Writes ps := by
    have hcut : " SERVER =\ttcp:db01\\SQL, 1433 ".toList =
        " SERVER ".toList ++ '=' :: "\ttcp:db01\\SQL, 1433 ".toList := by decide
    have hserver : HostPair instanceSite.host " SERVER =\ttcp:db01\\SQL, 1433 ".toList :=
      .mk hcut ((spells_iff areKeys_host).2 (by decide)) ((pads_iff (by decide)).2 (by decide)) (.comma htcp " 1433".toList)
    have hdatabase : DatabasePair "Sales East".toList "Initial Catalog=Sales East".toList :=
      .mk (by decide) ⟨"Initial Catalog", by decide, _, pads_self _, rfl⟩ (pads_self _)
    have hother : Other "Trusted_Connection=True".toList := by
      have hcut : "Trusted_Connection=True".toList = "Trusted_Connection".toList ++ '=' :: "True".toList := by decide
      exact .pair hcut (by decide) fun h => absurd ((spells_iff areKeys).1 h) (by decide)
    refine .database (by decide) ?_ hserver rfl hdatabase (List.forall_mem_singleton.2 hother)
    exact .cons _ (.swap _ _ _)
  have hqs : instanceSite.Writes qs := by
    have hserver : HostPair instanceSite.host "Addr=db01\\SQL:1433".toList :=
      .mk (by decide) ⟨"Addr", by decide, _, pads_self _, rfl⟩ (pads_self _) (.colon hbare hport)
    have hcut : "database = Sales East".toList = "database ".toList ++ '=' :: " Sales East".toList := by decide
    have hdatabase : DatabasePair "Sales East".toList "database = Sales East".toList :=
      .mk hcut ((spells_iff areKeys_database).2 (by decide)) ((pads_iff (by decide)).2 (by decide))
    have hothers : ∀ q ∈ ["".toList, "Encrypt".toList], Other q :=
      List.forall_mem_cons.2 ⟨.segment (by decide), List.forall_mem_singleton.2 (.segment (by decide))⟩
    refine .database (by decide) ?_ hserver rfl hdatabase hothers
    decide
  obtain ⟨hread, hsame, hrefused⟩ := parse_spellings
  have hlocator : instanceSite.locator = ⟨"db01\\SQL", some "Sales East", none⟩ := by decide
  refine ⟨hps, hqs, hlocator ▸ hread _ _ hps (hclear _), hsame _ _ _ hps (hclear _) hqs (hclear _), ?_⟩
  refine hrefused _ fun p hp => silent_iff.1 ?_
  revert p
  unfold Silent
  decide

/-- The host `tcp` with a port behind a colon is read as a host that is named as the port. -/
theorem not_parse_protocolName : ¬ ∀ (s : Site) ps, s.Writes ps → parse (text ps) = .ok s.locator := by
  intro h
  let s : Site :=
    { host := "tcp".toList
      host_ne_nil := by decide
      isTrimmed_host := by decide
      unmarked := by decide
      isDatabase := fun d hd => by cases hd }
  have hbare : "".toList ∈ protocols := by decide
  have hnumber : ∀ c ∈ "1433".toList, c.isDigit = true := List.all_eq_true.1 (by decide)
  have hserver : HostPair s.host "Server=tcp:1433".toList :=
    .mk (by decide) ⟨"Server", by decide, _, pads_self _, rfl⟩ (pads_self _) (.colon hbare hnumber)
  have hwrites : s.Writes ["Server=tcp:1433".toList] :=
    .server (by decide) (.refl _) hserver rfl fun q hq => absurd hq List.not_mem_nil
  have hport : parse (text ["Server=tcp:1433".toList]) = .ok ⟨"1433", none, none⟩ := by decide
  exact absurd (hport.symm.trans (h s _ hwrites)) (by decide)

end Rowgraph.Locator
