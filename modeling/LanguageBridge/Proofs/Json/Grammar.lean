import LanguageBridge.Json.Parser
import LanguageBridge.Proofs.Json.Order

/-! The grammar that the reader of JSON text follows. Every reading has a derivation, and what holds of
all values that come out of texts is read off the derivations. -/
namespace LanguageBridge.Json

/-- What a stretch of text can spell: a value, or what stands between the brackets of a container. -/
inductive Piece where
  | value (j : Json)
  | items (js : List Json)
  | members (ms : List (String × Json))

def Piece.Forall (property : Json → Prop) : Piece → Prop
  | .value j => property j
  | .items js => ∀ j ∈ js, property j
  | .members ms => ∀ m ∈ ms, property m.2

/-- `Spells depth piece cs rest`: the text `cs` begins with a spelling of the piece in which at most
`depth` containers are open at once, and `rest` follows it. -/
inductive Spells : Nat → Piece → List Char → List Char → Prop where
  | null {depth : Nat} {cs rest : List Char} (start : skipSpace cs = 'n' :: ("ull".toList ++ rest)) :
      Spells depth (.value .null) cs rest
  | yes {depth : Nat} {cs rest : List Char} (start : skipSpace cs = 't' :: ("rue".toList ++ rest)) :
      Spells depth (.value (.bool true)) cs rest
  | no {depth : Nat} {cs rest : List Char} (start : skipSpace cs = 'f' :: ("alse".toList ++ rest)) :
      Spells depth (.value (.bool false)) cs rest
  | text {depth : Nat} {cs body rest : List Char} {s : String} (start : skipSpace cs = '"' :: body)
      (read : string body = .ok (s,rest)) : Spells depth (.value (.str s)) cs rest
  | negative {depth : Nat} {cs digits rest : List Char} {n : Number}
      (start : skipSpace cs = '-' :: digits) (read : number true digits = .ok (.num n,rest)) :
      Spells depth (.value (.num n)) cs rest
  | nonnegative {depth : Nat} {cs digits rest : List Char} {c : Char} {n : Number}
      (start : skipSpace cs = c :: digits) (digit : c.isDigit = true)
      (read : number false (c :: digits) = .ok (.num n,rest)) : Spells depth (.value (.num n)) cs rest
  | emptyArray {depth : Nat} {cs body rest : List Char} (start : skipSpace cs = '[' :: body)
      (close : skipSpace body = ']' :: rest) : Spells (depth + 1) (.value (.arr [])) cs rest
  | array {depth : Nat} {cs body rest : List Char} {js : List Json} (start : skipSpace cs = '[' :: body)
      (all : Spells depth (.items js) (skipSpace body) rest) :
      Spells (depth + 1) (.value (.arr js)) cs rest
  | emptyObject {depth : Nat} {cs body rest : List Char} (start : skipSpace cs = '\x7b' :: body)
      (close : skipSpace body = '\x7d' :: rest) : Spells (depth + 1) (.value (.obj [])) cs rest
  | object {depth : Nat} {cs body rest : List Char} {ms : List (String × Json)}
      (start : skipSpace cs = '\x7b' :: body)
      (all : Spells depth (.members ms) (skipSpace body) rest) :
      Spells (depth + 1) (.value (.obj (sortMembers ms))) cs rest
  | lastItem {depth : Nat} {cs more rest : List Char} {j : Json} (item : Spells depth (.value j) cs more)
      (close : skipSpace more = ']' :: rest) : Spells depth (.items [j]) cs rest
  | item {depth : Nat} {cs more after rest : List Char} {j : Json} {js : List Json}
      (item : Spells depth (.value j) cs more) (comma : skipSpace more = ',' :: after)
      (others : Spells depth (.items js) (skipSpace after) rest) :
      Spells depth (.items (j :: js)) cs rest
  | lastMember {depth : Nat} {cs more body after rest : List Char} {key : String} {j : Json}
      (named : string cs = .ok (key,more)) (colon : skipSpace more = ':' :: body)
      (item : Spells depth (.value j) body after) (close : skipSpace after = '\x7d' :: rest) :
      Spells depth (.members [(key,j)]) ('"' :: cs) rest
  | member {depth : Nat} {cs more body after next rest : List Char} {key : String} {j : Json}
      {ms : List (String × Json)} (named : string cs = .ok (key,more))
      (colon : skipSpace more = ':' :: body) (item : Spells depth (.value j) body after)
      (comma : skipSpace after = ',' :: next)
      (others : Spells depth (.members ms) (skipSpace next) rest) :
      Spells depth (.members ((key,j) :: ms)) ('"' :: cs) rest

theorem keyword_ok {j k : Json} {expected cs rest : List Char}
    (read : keyword j expected cs = .ok (k,rest)) : k = j ∧ cs = expected ++ rest := by
  induction expected generalizing cs with
  | nil =>
    cases read
    exact ⟨rfl,rfl⟩
  | cons e expected ih =>
    cases cs with
    | nil => cases read
    | cons c cs =>
      unfold keyword at read
      split at read
      next same =>
        obtain ⟨value,spelt⟩ := ih read
        exact ⟨value,by rw [same,spelt,List.cons_append]⟩
      next => cases read

theorem number_ok {negative : Bool} {cs rest : List Char} {j : Json}
    (read : number negative cs = .ok (j,rest)) : ∃ n, j = .num n := by
  unfold number at read
  split at read
  · cases read
  · split at read
    · cases read
      exact ⟨_,rfl⟩
    · cases read

structure Derives (fuel : Nat) : Prop where
  value {depth : Nat} {cs rest : List Char} {j : Json} :
    value fuel depth cs = .ok (j,rest) → Spells depth (.value j) cs rest
  items {depth : Nat} {cs rest : List Char} {js : List Json} :
    items fuel depth cs = .ok (js,rest) → Spells depth (.items js) cs rest
  members {depth : Nat} {cs rest : List Char} {ms : List (String × Json)} :
    members fuel depth cs = .ok (ms,rest) → Spells depth (.members ms) cs rest

theorem spells_value {fuel depth : Nat} {cs rest : List Char} {j : Json}
    (derives : Derives fuel) (read : value (fuel + 1) depth cs = .ok (j,rest)) :
    Spells depth (.value j) cs rest := by
  unfold value at read
  cases start : skipSpace cs with
  | nil =>
    rw [start] at read
    cases read
  | cons c body =>
    rw [start] at read
    dsimp only at read
    by_cases letter : c = 'n'
    · rw [if_pos letter] at read
      obtain ⟨rfl,spelt⟩ := keyword_ok read
      exact .null (by rw [start,letter,spelt])
    rw [if_neg letter] at read
    by_cases letter : c = 't'
    · rw [if_pos letter] at read
      obtain ⟨rfl,spelt⟩ := keyword_ok read
      exact .yes (by rw [start,letter,spelt])
    rw [if_neg letter] at read
    by_cases letter : c = 'f'
    · rw [if_pos letter] at read
      obtain ⟨rfl,spelt⟩ := keyword_ok read
      exact .no (by rw [start,letter,spelt])
    rw [if_neg letter] at read
    by_cases quote : c = '"'
    · rw [if_pos quote] at read
      subst quote
      split at read
      next found =>
        cases read
        exact .text start found
      next => cases read
    rw [if_neg quote] at read
    by_cases minus : c = '-'
    · rw [if_pos minus] at read
      subst minus
      obtain ⟨n,rfl⟩ := number_ok read
      exact .negative start read
    rw [if_neg minus] at read
    by_cases digit : c.isDigit
    · rw [if_pos digit] at read
      obtain ⟨n,rfl⟩ := number_ok read
      exact .nonnegative start digit read
    rw [if_neg digit] at read
    by_cases bracket : c = '['
    · rw [if_pos bracket] at read
      subst bracket
      split at read
      · cases read
      · split at read
        · cases read
        next d after inside =>
          split at read
          next close =>
            cases read
            exact .emptyArray start (by rw [inside,close])
          next =>
            split at read
            next found =>
              cases read
              exact .array start (inside ▸ derives.items found)
            next => cases read
    rw [if_neg bracket] at read
    by_cases brace : c = '\x7b'
    · rw [if_pos brace] at read
      subst brace
      split at read
      · cases read
      · split at read
        · cases read
        next d after inside =>
          split at read
          next close =>
            cases read
            exact .emptyObject start (by rw [inside,close])
          next =>
            split at read
            next found =>
              cases read
              exact .object start (inside ▸ derives.members found)
            next => cases read
    · rw [if_neg brace] at read
      cases read

theorem spells_items {fuel depth : Nat} {cs rest : List Char} {js : List Json}
    (derives : Derives fuel) (read : items (fuel + 1) depth cs = .ok (js,rest)) :
    Spells depth (.items js) cs rest := by
  unfold items at read
  split at read
  · cases read
  next j more first =>
    have item := derives.value first
    split at read
    · cases read
    next c after found =>
      split at read
      next close =>
        cases read
        exact .lastItem item (by rw [found,close])
      split at read
      next comma =>
        split at read
        · cases read
        next d next start =>
          split at read
          · cases read
          · split at read
            next others =>
              cases read
              exact .item item (by rw [found,comma]) (start ▸ derives.items others)
            next => cases read
      next => cases read

theorem spells_members {fuel depth : Nat} {cs rest : List Char} {ms : List (String × Json)}
    (derives : Derives fuel) (read : members (fuel + 1) depth cs = .ok (ms,rest)) :
    Spells depth (.members ms) cs rest := by
  cases cs with
  | nil => cases read
  | cons q cs =>
    unfold members at read
    split at read
    · cases read
    next quote =>
      obtain rfl : q = '"' := by simpa using quote
      split at read
      · cases read
      next key more named =>
        split at read
        · cases read
        next c body found =>
          split at read
          · cases read
          next colon =>
            obtain rfl : c = ':' := by simpa using colon
            split at read
            · cases read
            next j after first =>
              have item := derives.value first
              split at read
              · cases read
              next d next ends =>
                split at read
                next close =>
                  cases read
                  exact .lastMember named found item (by rw [ends,close])
                split at read
                next comma =>
                  split at read
                  · cases read
                  next e more' start =>
                    split at read
                    next others =>
                      cases read
                      exact .member named found item (by rw [ends,comma])
                        (start ▸ derives.members others)
                    next => cases read
                next => cases read

theorem derives (fuel : Nat) : Derives fuel := by
  induction fuel with
  | zero => constructor <;> intro _ _ _ _ read <;> simp [value,items,members] at read
  | succ fuel ih => exact ⟨spells_value ih,spells_items ih,spells_members ih⟩

/-- A text that is read as a value spells it, with nothing but blanks behind. -/
theorem spells_of_parse {text : String} {j : Json} (read : parse text = .ok j) :
    ∃ rest, Spells 127 (.value j) text.toList rest ∧ skipSpace rest = [] := by
  unfold parse parseChars at read
  split at read
  · cases read
  next found =>
    split at read
    next ends =>
      cases read
      exact ⟨_,(derives _).value found,by simpa using ends⟩
    next => cases read

/-- What is spelt has no more containers inside each other than admitted, and its keys ascend. -/
theorem Spells.fits {depth : Nat} {piece : Piece} {cs rest : List Char}
    (spells : Spells depth piece cs rest) : piece.Forall fun j => j.depth ≤ depth ∧ j.ordered := by
  induction spells with
  | null | yes | no | text | negative | nonnegative => exact ⟨by simp [Json.depth],rfl⟩
  | emptyArray | emptyObject => exact ⟨by simp [Json.depth,depthItems,depthMembers],rfl⟩
  | array _ _ ih =>
    refine ⟨Nat.succ_le_succ (depthItems_le_iff.mpr fun j item => (ih j item).1),?_⟩
    exact everyItem_iff.mpr fun j item => (ih j item).2
  | @object _ _ _ _ ms _ _ ih =>
    have inside : ∀ m ∈ sortMembers ms, m ∈ ms := sortMembers_subset ms
    refine ⟨Nat.succ_le_succ (depthMembers_le_iff.mpr fun m member => (ih m (inside m member)).1),?_⟩
    rw [ordered,every,Bool.and_eq_true]
    exact ⟨decide_eq_true (ascending_sortMembers ms),
      everyMember_iff.mpr fun m member => (ih m (inside m member)).2⟩
  | lastItem _ _ item => exact List.forall_mem_singleton.mpr item
  | item _ _ _ item others => exact List.forall_mem_cons.mpr ⟨item,others⟩
  | lastMember _ _ _ _ item => exact List.forall_mem_singleton.mpr item
  | member _ _ _ _ _ item others => exact List.forall_mem_cons.mpr ⟨item,others⟩

end LanguageBridge.Json
