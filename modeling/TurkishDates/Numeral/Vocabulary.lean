import TurkishDates.Text.Digits

/-!
The number words of Turkish and their values.
-/

namespace TurkishDates

def numberWords : List (Text × Int) :=
  [("bir".toList, 1), ("iki".toList, 2), ("üç".toList, 3), ("dört".toList, 4), ("beş".toList, 5),
    ("altı".toList, 6), ("yedi".toList, 7), ("sekiz".toList, 8), ("dokuz".toList, 9),
    ("on".toList, 10), ("sıfır".toList, 0), ("yirmi".toList, 20), ("otuz".toList, 30),
    ("kırk".toList, 40), ("elli".toList, 50), ("altmış".toList, 60), ("yetmiş".toList, 70),
    ("seksen".toList, 80), ("doksan".toList, 90), ("yüz".toList, 100), ("bin".toList, 1000),
    ("milyon".toList, 1000000), ("milyar".toList, 1000000000), ("trilyon".toList, 1000000000000),
    ("katrilyon".toList, 1000000000000000)]

def numberWord? (word : Text) : Option Int := numberWords.lookup word

end TurkishDates
