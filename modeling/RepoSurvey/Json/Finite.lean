import RepoSurvey.Json.Value

/-!
# Finite numbers

Most readers of JSON know finite numbers only. Null can be put in place of all other numbers in a
value.
-/

namespace RepoSurvey.Json

mutual

/-- Whether all numbers in a value are finite. -/
def isFinite : Json -> Bool
  | .float value => value.isFinite
  | .arr items => itemsAreFinite items
  | .obj members => membersAreFinite members
  | _ => true

/-- Whether all numbers in some items are finite. -/
def itemsAreFinite : List Json -> Bool
  | [] => true
  | item :: items => isFinite item && itemsAreFinite items

/-- Whether all numbers in some members are finite. -/
def membersAreFinite : List (String × Json) -> Bool
  | [] => true
  | (_, value) :: members => isFinite value && membersAreFinite members

end

mutual

/-- A value with null in place of every number that is not finite. -/
def finite : Json -> Json
  | .float value => if value.isFinite then .float value else .null
  | .arr items => .arr (finiteItems items)
  | .obj members => .obj (finiteMembers members)
  | value => value

/-- Items with null in place of such numbers. -/
def finiteItems : List Json -> List Json
  | [] => []
  | item :: items => finite item :: finiteItems items

/-- Members with null in place of such numbers. -/
def finiteMembers : List (String × Json) -> List (String × Json)
  | [] => []
  | (name, value) :: members => (name, finite value) :: finiteMembers members

end

mutual

/-- What was made finite holds finite numbers only. -/
theorem isFinite_finite : (value : Json) -> isFinite (finite value) = true
  | .null | .bool _ | .int _ | .str _ => by simp [finite, isFinite]
  | .float value => by
    by_cases found : value.isFinite = true <;> simp [finite, isFinite, found]
  | .arr items => by simpa [finite, isFinite] using itemsAreFinite_finiteItems items
  | .obj members => by simpa [finite, isFinite] using membersAreFinite_finiteMembers members

/-- Items that were made finite hold finite numbers only. -/
theorem itemsAreFinite_finiteItems : (items : List Json) -> itemsAreFinite (finiteItems items) = true
  | [] => rfl
  | item :: items => by
    simp [finiteItems, itemsAreFinite, isFinite_finite item, itemsAreFinite_finiteItems items]

/-- Members that were made finite hold finite numbers only. -/
theorem membersAreFinite_finiteMembers :
    (members : List (String × Json)) -> membersAreFinite (finiteMembers members) = true
  | [] => rfl
  | (_, value) :: members => by
    simp [finiteMembers, membersAreFinite, isFinite_finite value,
      membersAreFinite_finiteMembers members]

end

mutual

/-- A value of finite numbers stays as it is. -/
theorem finite_of_isFinite : (value : Json) -> isFinite value = true -> finite value = value
  | .null, _ | .bool _, _ | .int _, _ | .str _, _ => by simp [finite]
  | .float value, found => by
    simp only [isFinite] at found
    simp [finite, found]
  | .arr items, found => by
    simp only [isFinite] at found
    rw [finite, finiteItems_of_itemsAreFinite items found]
  | .obj members, found => by
    simp only [isFinite] at found
    rw [finite, finiteMembers_of_membersAreFinite members found]

/-- Items of finite numbers stay as they are. -/
theorem finiteItems_of_itemsAreFinite :
    (items : List Json) -> itemsAreFinite items = true -> finiteItems items = items
  | [], _ => rfl
  | item :: items, found => by
    simp only [itemsAreFinite, Bool.and_eq_true] at found
    rw [finiteItems, finite_of_isFinite item found.1, finiteItems_of_itemsAreFinite items found.2]

/-- Members of finite numbers stay as they are. -/
theorem finiteMembers_of_membersAreFinite :
    (members : List (String × Json)) -> membersAreFinite members = true ->
      finiteMembers members = members
  | [], _ => rfl
  | (name, value) :: members, found => by
    simp only [membersAreFinite, Bool.and_eq_true] at found
    rw [finiteMembers, finite_of_isFinite value found.1,
      finiteMembers_of_membersAreFinite members found.2]

end

end RepoSurvey.Json
