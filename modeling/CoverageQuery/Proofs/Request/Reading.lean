import CoverageQuery.Proofs.Steps
import CoverageQuery.Proofs.Text.Percent
import CoverageQuery.Proofs.Text.Recovery
import CoverageQuery.Request
import CoverageQuery.Text.Scan

/-!
# Reading parameters back

A service takes the parameters from what comes after the first question mark of an address. It finds
the ones that were sent exactly if the endpoint has no question mark: where it has one, the rest of
the endpoint ends up in the first key or in its value, and neither decodes to what was sent.
-/

namespace CoverageQuery

namespace Text

variable {c : Char} {front text : List Char}

theorem splitAt?_append_cons (h : c ∉ front) (rest : List Char) :
    splitAt? c (front ++ c :: rest) = some (front, rest) := by
  induction front with
  | nil => exact if_pos rfl
  | cons d front ih =>
    rw [List.mem_cons, not_or] at h
    rw [List.cons_append, splitAt?, if_neg (Ne.symm h.1), ih h.2]
    rfl

theorem splitAt_append_cons (h : c ∉ front) (rest : List Char) :
    splitAt c (front ++ c :: rest) = (front, rest) := by
  rw [splitAt, splitAt?_append_cons h]
  rfl

theorem length_fields (c : Char) (text : List Char) :
    (fields c text).length = text.count c + 1 := by
  induction text with
  | nil => rfl
  | cons d text ih =>
    rw [fields]
    split
    · next hd => rw [hd, List.count_cons_self, List.length_cons, ih]
    · next hd =>
      rw [List.count_cons_of_ne hd]
      split
      · next hnil => exact absurd hnil (fields_ne_nil c text)
      · next field rest hfields =>
        rw [← ih, hfields]
        rfl

theorem fields_of_not_mem (h : c ∉ text) : fields c text = [text] := by
  induction text with
  | nil => rfl
  | cons d text ih =>
    rw [List.mem_cons, not_or] at h
    rw [fields, if_neg (Ne.symm h.1), ih h.2]

theorem fields_append_cons (h : c ∉ front) (rest : List Char) :
    fields c (front ++ c :: rest) = front :: fields c rest := by
  induction front with
  | nil => exact if_pos rfl
  | cons d front ih =>
    rw [List.mem_cons, not_or] at h
    rw [List.cons_append, fields, if_neg (Ne.symm h.1), ih h.2]

/-- Joined texts are found again between the separators. -/
theorem fields_joined {texts : List (List Char)} (hne : texts ≠ []) (h : ∀ t ∈ texts, c ∉ t) :
    fields c (joined [c] texts) = texts := by
  induction texts with
  | nil => exact absurd rfl hne
  | cons t texts ih =>
    rw [List.forall_mem_cons] at h
    cases texts with
    | nil => exact fields_of_not_mem h.1
    | cons t' texts =>
      rw [joined_cons_cons, List.append_assoc, List.singleton_append, fields_append_cons h.1,
        ih (List.cons_ne_nil _ _) h.2]

theorem append_joined (separator front : List Char) (t : List Char) (texts : List (List Char)) :
    front ++ joined separator (t :: texts) = joined separator ((front ++ t) :: texts) := by
  cases texts with
  | nil => rfl
  | cons t' texts => simp only [joined_cons_cons, List.append_assoc]

end Text

namespace ServiceRequest

open Text

/-- A key and a value as a service reads them: what is before the first equality sign and what is
after it, both decoded. -/
def readPair? (field : List Char) : Option (String × String) := do
  let (key, value) := splitAt '=' field
  let key ← Percent.decodeText? key
  let value ← Percent.decodeText? value
  pure (String.ofList key, String.ofList value)

/-- The parameters that a service reads from an address: the fields between ampersands in what
comes after the first question mark. -/
def received? (url : String) : Option (List (String × String)) :=
  (fields '&' (splitAt '?' url.toList).2).mapM readPair?

theorem readPair?_eq_some_iff {field : List Char} {pair : String × String} :
    readPair? field = some pair ↔
      Percent.decode (splitAt '=' field).1 = Percent.bytes pair.1.toList ∧
        Percent.decode (splitAt '=' field).2 = Percent.bytes pair.2.toList := by
  rw [← Percent.decodeText?_eq_some_iff, ← Percent.decodeText?_eq_some_iff]
  obtain ⟨key, value⟩ := pair
  simp only [readPair?, Option.bind_eq_bind, Option.bind_eq_some_iff, Option.pure_def,
    Option.some_inj, Prod.mk.injEq]
  constructor
  · rintro ⟨k, hk, v, hv, rfl, rfl⟩
    rw [String.toList_ofList, String.toList_ofList]
    exact ⟨hk, hv⟩
  · rintro ⟨hk, hv⟩
    exact ⟨_, hk, _, hv, String.ofList_toList, String.ofList_toList⟩

/-- A key needs no encoding. -/
def PlainKey (pair : String × String) : Prop := ∀ c ∈ pair.1.toList, Percent.isUnreserved c = true

section Pairs

variable {pair : String × String} {pairs : List (String × String)} {c : Char}

theorem PlainKey.not_mem (h : PlainKey pair) (hc : Percent.isUnreserved c = false) :
    c ∉ pair.1.toList := by
  intro hmem
  rw [h c hmem] at hc
  cases hc

theorem PlainKey.decode (h : PlainKey pair) :
    Percent.decode pair.1.toList = Percent.bytes pair.1.toList := by
  rw [← Percent.decodeText?_eq_some_iff]
  have hdecode := Percent.decodeText?_encode pair.1.toList
  rwa [Percent.encode_eq_self h] at hdecode

theorem decode_encode (text : List Char) :
    Percent.decode (Percent.encode text) = Percent.bytes text :=
  Percent.decodeText?_eq_some_iff.mp (Percent.decodeText?_encode text)

theorem PlainKey.not_mem_pairChars (h : PlainKey pair) (hc : Percent.isUnreserved c = false)
    (hpercent : c ≠ '%') (hequal : c ≠ '=') : c ∉ pairChars pair := by
  rw [pairChars, List.mem_append, List.mem_cons, not_or, not_or]
  exact ⟨h.not_mem hc, hequal, Percent.not_mem_encode hc hpercent _⟩

theorem PlainKey.readPair? (h : PlainKey pair) :
    ServiceRequest.readPair? (pairChars pair) = some pair := by
  rw [readPair?_eq_some_iff, pairChars, splitAt_append_cons (h.not_mem (by decide))]
  exact ⟨h.decode, decode_encode _⟩

/-- A pair is not read back where something that ends with a question mark stands before it: that
is part of the key, or of the value if it has an equality sign, which is too long then. -/
theorem PlainKey.readPair?_ne (h : PlainKey pair) (front : List Char) :
    ServiceRequest.readPair? (front ++ '?' :: pairChars pair) ≠ some pair := by
  intro hread
  rw [readPair?_eq_some_iff] at hread
  have hmark : ∀ text rest : List Char, Percent.decode (text ++ '?' :: rest) =
      Percent.decode text ++ String.utf8EncodeChar '?' ++ Percent.decode rest :=
    Percent.decode_append_cons (by decide) (by decide)
  have hlength : (String.utf8EncodeChar '?').length = 1 := by decide
  by_cases hequal : '=' ∈ front
  · obtain ⟨before, after, rfl, hbefore⟩ := List.eq_append_cons_of_mem hequal
    have hvalue := hread.2
    rw [List.append_assoc, List.cons_append, splitAt_append_cons hbefore, pairChars] at hvalue
    dsimp only at hvalue
    rw [hmark, Percent.decode_append_cons (by decide) (by decide), decode_encode] at hvalue
    have := congrArg List.length hvalue
    simp only [List.length_append, hlength] at this
    omega
  · have hkey := hread.1
    have hfront : '=' ∉ front ++ '?' :: pair.1.toList := by
      rw [List.mem_append, List.mem_cons, not_or, not_or]
      exact ⟨hequal, by decide, h.not_mem (by decide)⟩
    rw [pairChars, ← List.cons_append, ← List.append_assoc, splitAt_append_cons hfront, hmark,
      h.decode] at hkey
    have := congrArg List.length hkey
    simp only [List.length_append, hlength] at this
    omega

theorem fields_pairChars (hne : pairs ≠ []) (h : ∀ pair ∈ pairs, PlainKey pair) :
    fields '&' (joined ['&'] (pairs.map pairChars)) = pairs.map pairChars := by
  apply fields_joined
  · simpa using hne
  · rw [List.forall_mem_map]
    exact fun pair hpair => (h pair hpair).not_mem_pairChars (by decide) (by decide) (by decide)

/-- An address made of an endpoint and parameters is read back exactly if the endpoint has no
question mark. Behind one there would be no ampersand, as there are no more fields than parameters,
and so the rest of the endpoint would stand in the field of the first pair. -/
theorem received?_eq_some_iff (endpoint : List Char) (hne : pairs ≠ [])
    (h : ∀ pair ∈ pairs, PlainKey pair) :
    received? (String.ofList (endpoint ++ '?' :: joined ['&'] (pairs.map pairChars))) = some pairs ↔
      '?' ∉ endpoint := by
  rw [received?, String.toList_ofList, mapM_eq_some_iff]
  constructor
  · intro hread hmem
    obtain ⟨before, after, rfl, hbefore⟩ := List.eq_append_cons_of_mem hmem
    rw [List.append_assoc, List.cons_append, splitAt_append_cons hbefore] at hread
    dsimp only at hread
    have hafter : '&' ∉ after := by
      have hfields := length_fields '&' (joined ['&'] (pairs.map pairChars))
      rw [fields_pairChars hne h, List.length_map] at hfields
      have hlength := congrArg List.length hread
      rw [List.length_map, List.length_map, length_fields, List.count_append,
        List.count_cons_of_ne (by decide), Nat.add_assoc, ← hfields] at hlength
      rw [← List.count_eq_zero]
      omega
    cases pairs with
    | nil => exact hne rfl
    | cons pair pairs =>
      rw [List.forall_mem_cons] at h
      have hfront : '&' ∉ after ++ '?' :: pairChars pair := by
        rw [List.mem_append, List.mem_cons, not_or, not_or]
        exact ⟨hafter, by decide, h.1.not_mem_pairChars (by decide) (by decide) (by decide)⟩
      have hrest : ∀ t ∈ pairs.map pairChars, '&' ∉ t := by
        rw [List.forall_mem_map]
        exact fun pair hpair =>
          (h.2 pair hpair).not_mem_pairChars (by decide) (by decide) (by decide)
      rw [List.map_cons, List.append_cons, append_joined, ← List.append_cons,
        fields_joined (List.cons_ne_nil _ _) (List.forall_mem_cons.mpr ⟨hfront, hrest⟩),
        List.map_cons, List.map_cons] at hread
      exact h.1.readPair?_ne after (List.cons.inj hread).1
  · intro hmem
    rw [splitAt_append_cons hmem, fields_pairChars hne h, List.map_map]
    exact List.map_congr_left fun pair hpair => (h pair hpair).readPair?

end Pairs

variable {r : ServiceRequest}

/-- A valid request has parameters, the service first, and their keys need no encoding. -/
theorem exists_parameters (h : r.validate = .ok ()) (p : ServiceParams) :
    ∃ pairs, r.parameters p = .ok pairs ∧ pairs ≠ [] ∧ ∀ pair ∈ pairs, PlainKey pair := by
  obtain ⟨_, hid, hrest⟩ := bind_eq_ok_iff.mp h
  obtain ⟨format, hformat, -⟩ := bind_eq_ok_iff.mp hrest
  have hkeys : ∀ key ∈ ["service", "version", "request", "coverageId", "subset", "format"],
      ∀ c ∈ key.toList, Percent.isUnreserved c = true := by decide
  rw [parameters, hid, hformat]
  refine ⟨_, rfl, List.cons_ne_nil _ _, fun pair hpair => hkeys pair.1 ?_⟩
  simp only [List.mem_append, List.mem_cons, List.mem_map, List.not_mem_nil, or_false] at hpair ⊢
  rcases hpair with (((rfl | rfl | rfl) | ⟨id, -, rfl⟩) | ⟨a, -, rfl⟩) | ⟨f, -, rfl⟩ <;> simp

/-- The address of a valid request begins with the endpoint and a question mark, and a service
reads from it exactly the parameters of the request, in their order, if and only if there is no
other question mark in the endpoint. -/
theorem received?_url_iff (h : r.validate = .ok ()) (p : ServiceParams) :
    ∃ pairs url query, r.parameters p = .ok pairs ∧ r.url p = .ok url ∧
      url = p.endpoint ++ "?" ++ query ∧
      (received? url = some pairs ↔ '?' ∉ p.endpoint.toList) := by
  obtain ⟨pairs, hpairs, hne, hkeys⟩ := exists_parameters h p
  refine ⟨pairs, _, String.ofList (joined ['&'] (pairs.map pairChars)), hpairs, ?_, ?_,
    received?_eq_some_iff p.endpoint.toList hne hkeys⟩
  · rw [url, hpairs]
    rfl
  · rw [← String.toList_inj]
    simp

/-- Values may hold every character that separates parameters. -/
theorem received?_url_iff_separators :
    let r : ServiceRequest :=
      .coverage "A&b=é?" [⟨"x%3D", .point (.number (.int 1))⟩, ⟨"y", .point (.number (.int 2))⟩]
        (some "png")
    let p : ServiceParams := ⟨"http://h/ows", "W%C", "2 0"⟩
    r.validate = .ok () ∧ ∃ url, r.url p = .ok url ∧
      received? url = some [("service", "W%C"), ("version", "2 0"), ("request", "GetCoverage"),
        ("coverageId", "A&b=é?"), ("subset", "x%3D(1)"), ("subset", "y(2)"),
        ("format", "image/png")] := by
  intro r p
  have hvalid : r.validate = .ok () := by decide +kernel
  obtain ⟨pairs, url, -, hpairs, hurl, -, hread⟩ := received?_url_iff hvalid p
  have hparameters : r.parameters p = .ok [("service", "W%C"), ("version", "2 0"),
      ("request", "GetCoverage"), ("coverageId", "A&b=é?"), ("subset", "x%3D(1)"),
      ("subset", "y(2)"), ("format", "image/png")] := by decide +kernel
  rw [hparameters] at hpairs
  cases hpairs
  exact ⟨hvalid, url, hurl, hread.mpr (by decide)⟩

end ServiceRequest

end CoverageQuery
