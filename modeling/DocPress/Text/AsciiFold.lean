import Std.Data.HashMap
import DocPress.Text.CodeRange

/-!
# DocPress.Text.AsciiFold

Folding a text to ASCII for use in a link target.

1. An ASCII character stands for itself.
2. A character that reads as one ASCII letter or digit becomes that letter or digit: accents are
   dropped (`é` is `e`), digits of other scripts lose their script, letters of other alphabets are
   romanised where one letter is enough (`λ` is `l`).
3. Every other character is dropped, among them those whose reading takes several letters
   (`ß`, `日`).
-/

namespace DocPress.Text

/-! ## The readings -/

/-- Readings by code point: `start:letters`, one letter for each code point from `start` on, a dot
where there is none. -/
def asciiReadings : List String :=
  ["AA:a B2:23.uP..1o.....AAAAAA.CEEEEIIIIDNOOOOOxOUUUUY..aaaaaa.ceeeeiiiidn",
   "F2:ooooo.ouuuuy.yAaAaAaCcCcCcCcDdDdEeEeEeEeEeGgGgGgGgHhHhIiIiIiIiIi",
   "134:JjKkkLlLlLlLlLlNnNnNn...OoOoOo..RrRrRrSsSsSsSsTtTtTtUuUuUuUuUuUu",
   "174:WwYyYZzZzZzsbBBb66OCcDDDdd3.EFfGG.IIKkllWNnOOo..Pp.22..tTtTUuYVY 1B4:yZz....255.w",
   "1CD:AaIiOoUuUuUuUuUu.AaAa..GgGgKkOoOo..j...Gg.WNnAa..OoAaAaEeEeIiIiO",
   "20D:oOoRrRrUuUuSsTtYyHhNd..ZzAaEeOoOoOoOoYylntj..ACcLTsz..BU.EeJjqqR",
   "24D:rYyaaabocdde..eeeejgggguYhhiiIlll.WWmnnno.OFrrrrrrrRRsSjSSttuUv 28D:wyYzzZZ...C.BEGHjkLq",
   "2AE:hhkhjrrrrwy 2C5:V.V 2D5:V..V.....RXGlsx.54321..V..V...o 363:aeioucdhmrtvx",
   "370:Hh....Ww...sss.J......A.EEI.O.UOiABGDEZE.IKLMN.OPR.STU...OIUaeei",
   "3B0:uabgdeze.iklmnxoprsstu",
   "3C9:oiuouo.b.UUU.p.Qq..WwQq....Ff..HhGg....krcj.e...SSsrSSS 404:E.I.J....IU.ABVGDE.ZIIKLMNOPRSTUF",
   "42B:Y.E..abvgde.ziiklmnoprstuf 44B:y.e 456:i.j....iu.OoEe..Ee..Oo 472:FfYyYyUuOoOo..Qq",
   "4AE:Uu 4BA:Hh....h 4D0:AaAa 4DE:Zz..IiIiOoOoOoEeUuUuUu....Yy..XxHh",
   "531:ABGDEZEE..IL..KH...MYN.O.PJ.SVTR.W..OF 561:abgdezee..il..kh...myn.o.pj.svtr.w..of",
   "5D0:Abgdhvz.tykklmmnns.pp..qr.t 622:a.....b.t.jH.d.rzs.SDTZ.G 641:fqklmnhw.y 660:0123456789",
   "6F0:0123456789 7C0:0123456789 905:a.i.u.RL.ee..oo.k.g..c.j",
   "924:t.d.n.p.b.myr.l..v..sh.....i.u.R..ee..oo 966:0123456789 985:a.i.u.RL..e...o.k.g..c.j",
   "9A4:t.d.n.p.b.myr.l.....sh 9E6:0123456789 A66:0123456789 AE6:0123456789 B66:0123456789",
   "BE6:0123456789 C66:0123456789 CE6:0123456789 D66:0123456789 DE6:0123456789 E01:k E0B:s",
   "E13:nd....nbp...f.myr.l.ws.shl.h E50:0123456789 ED0:0123456789 F20:0123456789",
   "1040:0123456789 1090:0123456789 10D0:abgdevztiklmnop.rstupk.q 10EF:jh 17E0:0123456789",
   "1810:0123456789 1946:0123456789 19D0:0123456789 1A80:0123456789 1A90:0123456789",
   "1B50:0123456789 1BB0:0123456789 1C40:0123456789 1C50:0123456789",
   "1D2C:A.B.DE.GHIJKLMN.O.PRTUWa...bde...g.km.o...ptu..v 1D62:iruv 1D9C:c...f 1DBB:z",
   "1E00:AaBbBbBbCcDdDdDdDdDdEeEeEeEeEeFfGgHhHhHhHhHhIiIiKkKkKkLlLlLlLlMm",
   "1E40:MmMmNnNnNnNnOoOoOoOoPpPpRrRrRrRrSsSsSsSsSsTtTtTtTtUuUuUuUuUuVvVv",
   "1E80:WwWwWwWwWwXxXxYyZzZzZzhtwyasss.dAaAaAaAaAaAaAaAaAaAaAaAaEeEeEeEe",
   "1EC0:EeEeEeEeIiIiOoOoOoOoOoOoOoOoOoOoOoOoUuUuUuUuUuUuUuYyYyYyYy..VvYy",
   "1F00:aaaaaaaaAAAAAAAAeeeeee..EEEEEE..eeeeeeeeEEEEEEEEiiiiiiiiIIIIIIII",
   "1F40:oooooo..OOOOOO..uuuuuuuu.U.U.U.UooooooooOOOOOOOOaaeeeeiioouuoo",
   "1F80:aaaaaaaaAAAAAAAAeeeeeeeeEEEEEEEEooooooooOOOOOOOOaaaaa.aaAAAAA.i",
   "1FC2:eee.eeEEEEE...iiii..iiIIII....uuuurruuUUUUR.....ooo.ooOOOOO",
   "2070:0i..456789.....n0123456789 2090:aeoxehklmnpst 20A4:L.N..W.D.KT..PGA..L.T.LMmRl",
   "2102:CC...EgFgHHHhhIILl.N..PPQRRR.R...VZ...ZiKABCeeEFFMoabgd.q.pgGPSG 2142:LLYDdeij..P.f",
   "2160:I...V....X..LCDMi...v....x..lcdm....c6L...23 2211:S 2460:123456789",
   "24B6:ABCDEFGHIJKLMNOPQRSTUVWXYZabcdefghijklmnopqrstuvwxyz0 24F5:123456789.0 2C7C:jV",
   "3041:aaiiuueeoo 3093:n 30A1:aaiiuueeoo 30F3:n 3105:bpmfdtnlgkhjqx...rzcsaoee 3127:iu",
   "A620:0123456789 A7F2:CFQ A8D0:0123456789 A900:0123456789 A9D0:0123456789 A9F0:0123456789",
   "AA50:0123456789 ABF0:0123456789 C544:a C5D0:e C624:o C6B0:u C774:i FF10:0123456789",
   "FF21:ABCDEFGHIJKLMNOPQRSTUVWXYZ FF41:abcdefghijklmnopqrstuvwxyz FF67:aiueo.....aiueo FF9D:n",
   "1D400:ABCDEFGHIJKLMNOPQRSTUVWXYZabcdefghijklmnopqrstuvwxyzABCDEFGHIJKL",
   "1D440:MNOPQRSTUVWXYZabcdefg.ijklmnopqrstuvwxyzABCDEFGHIJKLMNOPQRSTUVWX",
   "1D480:YZabcdefghijklmnopqrstuvwxyzA.CD..G..JK..NOPQ.STUVWXYZabcd.f.hij",
   "1D4C0:klmn.pqrstuvwxyzABCDEFGHIJKLMNOPQRSTUVWXYZabcdefghijklmnopqrstuv",
   "1D500:wxyzAB.DEFG..JKLMNOPQ.STUVWXY.abcdefghijklmnopqrstuvwxyzAB.DEFG",
   "1D540:IJKLM.O...STUVWXY.abcdefghijklmnopqrstuvwxyzABCDEFGHIJKLMNOPQRST",
   "1D580:UVWXYZabcdefghijklmnopqrstuvwxyzABCDEFGHIJKLMNOPQRSTUVWXYZabcdef",
   "1D5C0:ghijklmnopqrstuvwxyzABCDEFGHIJKLMNOPQRSTUVWXYZabcdefghijklmnopqr",
   "1D600:stuvwxyzABCDEFGHIJKLMNOPQRSTUVWXYZabcdefghijklmnopqrstuvwxyzABCD",
   "1D640:EFGHIJKLMNOPQRSTUVWXYZabcdefghijklmnopqrstuvwxyzABCDEFGHIJKLMNOP",
   "1D680:QRSTUVWXYZabcdefghijklmnopqrstuvwxyz",
   "1D7CE:01234567890123456789012345678901234567890123456789"]

/-- The readings of one run, spread over its code points. -/
def spreadReadings (start : Nat) (letters : List Char) : List (Nat × Char) :=
  (letters.zipIdx.filter fun (letter, _) => letter != '.').map fun (letter, i) => (start + i, letter)

/-- The one-letter reading of each code point that has one. -/
def asciiReadingTable : Std.HashMap Nat Char :=
  ((asciiReadings.flatMap (·.splitOn " ")).flatMap fun run =>
    match run.splitOn ":" with
    | [start, letters] => spreadReadings (CodeRange.hexValue start.toList) letters.toList
    | _ => []).foldl (fun table (code, letter) => table.insert code letter)
      Std.HashMap.emptyWithCapacity

/-! ## Folding -/

/-- An ASCII letter or digit. -/
def isAsciiAlphanumeric (c : Char) : Bool :=
  c.isAlphanum

/-- What a character beyond ASCII folds to: its reading, if that is one ASCII letter or digit. -/
def asciiReading? (c : Char) : Option Char :=
  asciiReadingTable[c.toNat]?.filter isAsciiAlphanumeric

/-- Folds a text to ASCII with a given reading of the characters beyond ASCII. -/
def foldAsciiBy (reading : Char → Option Char) (text : List Char) : List Char :=
  text.filterMap fun c => if c.toNat < 128 then some c else reading c

end DocPress.Text
