namespace FaceDecode.Number

/-- The larger of two numbers, and the other one where one of them is no number. -/
def larger (a b : Float32) : Float32 :=
  if a.isNaN then b else if a < b then b else a

def smaller (a b : Float32) : Float32 :=
  if a.isNaN then b else if b < a then b else a

end FaceDecode.Number
