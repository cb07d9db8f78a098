/-
  MmIotEsp32.Mmregdb.Mmregdb

  The channel lists of the regulatory database (`mmregdb.c`): for each channel its
  centre frequency, its global and its own operating class, its number and its width.
  What a channel is set with otherwise (power, duty cycle, packet spacing) is not
  looked at where a channel is chosen.
-/
import MmIotEsp32.Umac.Interface.Channel

namespace MmIotEsp32.Mmregdb

open Umac.Interface

def s1gChannelsAu : List S1gChannel :=
  [⟨915500000, 68, 22, 27, 1⟩, ⟨916500000, 68, 22, 29, 1⟩, ⟨917500000, 68, 22, 31, 1⟩,
   ⟨918500000, 68, 22, 33, 1⟩, ⟨919500000, 68, 22, 35, 1⟩, ⟨920500000, 68, 22, 37, 1⟩,
   ⟨921500000, 68, 22, 39, 1⟩, ⟨922500000, 68, 22, 41, 1⟩, ⟨923500000, 68, 22, 43, 1⟩,
   ⟨924500000, 68, 22, 45, 1⟩, ⟨925500000, 68, 22, 47, 1⟩, ⟨926500000, 68, 22, 49, 1⟩,
   ⟨927500000, 68, 22, 51, 1⟩, ⟨917000000, 69, 23, 30, 2⟩, ⟨919000000, 69, 23, 34, 2⟩,
   ⟨921000000, 69, 23, 38, 2⟩, ⟨923000000, 69, 23, 42, 2⟩, ⟨925000000, 69, 23, 46, 2⟩,
   ⟨927000000, 69, 23, 50, 2⟩, ⟨918000000, 70, 24, 32, 4⟩, ⟨922000000, 70, 24, 40, 4⟩,
   ⟨926000000, 70, 24, 48, 4⟩, ⟨924000000, 71, 25, 44, 8⟩, ⟨916000000, 50, 22, 28, 1⟩,
   ⟨917000000, 50, 22, 30, 1⟩, ⟨918000000, 50, 22, 32, 1⟩, ⟨919000000, 50, 22, 34, 1⟩,
   ⟨920000000, 50, 22, 36, 1⟩, ⟨921000000, 50, 22, 38, 1⟩, ⟨922000000, 50, 22, 40, 1⟩,
   ⟨923000000, 50, 22, 42, 1⟩, ⟨924000000, 50, 22, 44, 1⟩, ⟨925000000, 50, 22, 46, 1⟩,
   ⟨926000000, 50, 22, 48, 1⟩, ⟨927000000, 50, 22, 50, 1⟩, ⟨916500000, 51, 23, 29, 2⟩,
   ⟨918500000, 51, 23, 33, 2⟩, ⟨920500000, 51, 23, 37, 2⟩, ⟨922500000, 51, 23, 41, 2⟩,
   ⟨924500000, 51, 23, 45, 2⟩, ⟨926500000, 51, 23, 49, 2⟩, ⟨917500000, 52, 24, 31, 4⟩,
   ⟨921500000, 52, 24, 39, 4⟩, ⟨925500000, 52, 24, 47, 4⟩, ⟨919500000, 53, 25, 35, 8⟩,
   ⟨923500000, 53, 25, 43, 8⟩, ⟨919500000, 48, 39, 51, 4⟩, ⟨923500000, 48, 39, 59, 4⟩,
   ⟨921500000, 49, 40, 55, 8⟩]

def s1gChannelsCa : List S1gChannel :=
  [⟨902500000, 68, 1, 1, 1⟩, ⟨903500000, 68, 1, 3, 1⟩, ⟨904500000, 68, 1, 5, 1⟩,
   ⟨905500000, 68, 1, 7, 1⟩, ⟨906500000, 68, 1, 9, 1⟩, ⟨907500000, 68, 1, 11, 1⟩,
   ⟨908500000, 68, 1, 13, 1⟩, ⟨909500000, 68, 1, 15, 1⟩, ⟨910500000, 68, 1, 17, 1⟩,
   ⟨911500000, 68, 1, 19, 1⟩, ⟨912500000, 68, 1, 21, 1⟩, ⟨913500000, 68, 1, 23, 1⟩,
   ⟨914500000, 68, 1, 25, 1⟩, ⟨915500000, 68, 1, 27, 1⟩, ⟨916500000, 68, 1, 29, 1⟩,
   ⟨917500000, 68, 1, 31, 1⟩, ⟨918500000, 68, 1, 33, 1⟩, ⟨919500000, 68, 1, 35, 1⟩,
   ⟨920500000, 68, 1, 37, 1⟩, ⟨921500000, 68, 1, 39, 1⟩, ⟨922500000, 68, 1, 41, 1⟩,
   ⟨923500000, 68, 1, 43, 1⟩, ⟨924500000, 68, 1, 45, 1⟩, ⟨925500000, 68, 1, 47, 1⟩,
   ⟨926500000, 68, 1, 49, 1⟩, ⟨927500000, 68, 1, 51, 1⟩, ⟨903000000, 69, 2, 2, 2⟩,
   ⟨905000000, 69, 2, 6, 2⟩, ⟨907000000, 69, 2, 10, 2⟩, ⟨909000000, 69, 2, 14, 2⟩,
   ⟨911000000, 69, 2, 18, 2⟩, ⟨913000000, 69, 2, 22, 2⟩, ⟨915000000, 69, 2, 26, 2⟩,
   ⟨917000000, 69, 2, 30, 2⟩, ⟨919000000, 69, 2, 34, 2⟩, ⟨921000000, 69, 2, 38, 2⟩,
   ⟨923000000, 69, 2, 42, 2⟩, ⟨925000000, 69, 2, 46, 2⟩, ⟨927000000, 69, 2, 50, 2⟩,
   ⟨906000000, 70, 3, 8, 4⟩, ⟨910000000, 70, 3, 16, 4⟩, ⟨914000000, 70, 3, 24, 4⟩,
   ⟨918000000, 70, 3, 32, 4⟩, ⟨922000000, 70, 3, 40, 4⟩, ⟨926000000, 70, 3, 48, 4⟩,
   ⟨908000000, 71, 4, 12, 8⟩, ⟨916000000, 71, 4, 28, 8⟩, ⟨924000000, 71, 4, 44, 8⟩]

def s1gChannelsEu : List S1gChannel :=
  [⟨863500000, 66, 6, 1, 1⟩, ⟨864500000, 66, 6, 3, 1⟩, ⟨865500000, 66, 6, 5, 1⟩,
   ⟨866500000, 66, 6, 7, 1⟩, ⟨867500000, 66, 6, 9, 1⟩, ⟨864000000, 67, 7, 2, 2⟩,
   ⟨866000000, 67, 7, 6, 2⟩]

def s1gChannelsGb : List S1gChannel :=
  [⟨863500000, 66, 6, 1, 1⟩, ⟨864500000, 66, 6, 3, 1⟩, ⟨865500000, 66, 6, 5, 1⟩,
   ⟨866500000, 66, 6, 7, 1⟩, ⟨867500000, 66, 6, 9, 1⟩, ⟨864000000, 67, 7, 2, 2⟩,
   ⟨866000000, 67, 7, 6, 2⟩, ⟨917900000, 77, 30, 33, 1⟩, ⟨918900000, 77, 30, 35, 1⟩]

def s1gChannelsIn : List S1gChannel :=
  [⟨865500000, 66, 6, 5, 1⟩, ⟨866500000, 66, 6, 7, 1⟩, ⟨867500000, 66, 6, 9, 1⟩]

def s1gChannelsJp : List S1gChannel :=
  [⟨921000000, 73, 8, 9, 1⟩, ⟨923000000, 73, 8, 13, 1⟩, ⟨924000000, 73, 8, 15, 1⟩,
   ⟨925000000, 73, 8, 17, 1⟩, ⟨926000000, 73, 8, 19, 1⟩, ⟨927000000, 73, 8, 21, 1⟩,
   ⟨923500000, 64, 9, 2, 2⟩, ⟨924500000, 64, 10, 4, 2⟩, ⟨925500000, 64, 9, 6, 2⟩,
   ⟨926500000, 64, 10, 8, 2⟩, ⟨924500000, 65, 11, 36, 4⟩, ⟨925500000, 65, 12, 38, 4⟩]

def s1gChannelsKr : List S1gChannel :=
  [⟨918000000, 74, 14, 1, 1⟩, ⟨919000000, 74, 14, 3, 1⟩, ⟨920000000, 74, 14, 5, 1⟩,
   ⟨921000000, 74, 14, 7, 1⟩, ⟨922000000, 74, 14, 9, 1⟩, ⟨923000000, 74, 14, 11, 1⟩,
   ⟨918500000, 75, 15, 2, 2⟩, ⟨920500000, 75, 15, 6, 2⟩, ⟨922500000, 75, 15, 10, 2⟩,
   ⟨921500000, 76, 16, 8, 4⟩, ⟨926500000, 74, 14, 18, 1⟩, ⟨927500000, 74, 14, 20, 1⟩,
   ⟨928500000, 74, 14, 22, 1⟩, ⟨929500000, 74, 14, 24, 1⟩, ⟨927000000, 75, 15, 19, 2⟩,
   ⟨929000000, 75, 15, 23, 2⟩]

def s1gChannelsNz : List S1gChannel :=
  [⟨915500000, 68, 26, 27, 1⟩, ⟨916500000, 68, 26, 29, 1⟩, ⟨917500000, 68, 26, 31, 1⟩,
   ⟨918500000, 68, 26, 33, 1⟩, ⟨919500000, 68, 26, 35, 1⟩, ⟨920500000, 68, 26, 37, 1⟩,
   ⟨921500000, 68, 26, 39, 1⟩, ⟨922500000, 68, 26, 41, 1⟩, ⟨923500000, 68, 26, 43, 1⟩,
   ⟨924500000, 68, 26, 45, 1⟩, ⟨925500000, 68, 26, 47, 1⟩, ⟨926500000, 68, 26, 49, 1⟩,
   ⟨927500000, 68, 26, 51, 1⟩, ⟨917000000, 69, 27, 30, 2⟩, ⟨919000000, 69, 27, 34, 2⟩,
   ⟨921000000, 69, 27, 38, 2⟩, ⟨923000000, 69, 27, 42, 2⟩, ⟨925000000, 69, 27, 46, 2⟩,
   ⟨927000000, 69, 27, 50, 2⟩, ⟨918000000, 70, 28, 32, 4⟩, ⟨922000000, 70, 28, 40, 4⟩,
   ⟨926000000, 70, 28, 48, 4⟩, ⟨924000000, 71, 29, 44, 8⟩]

def s1gChannelsUs : List S1gChannel :=
  [⟨902500000, 68, 1, 1, 1⟩, ⟨903500000, 68, 1, 3, 1⟩, ⟨904500000, 68, 1, 5, 1⟩,
   ⟨905500000, 68, 1, 7, 1⟩, ⟨906500000, 68, 1, 9, 1⟩, ⟨907500000, 68, 1, 11, 1⟩,
   ⟨908500000, 68, 1, 13, 1⟩, ⟨909500000, 68, 1, 15, 1⟩, ⟨910500000, 68, 1, 17, 1⟩,
   ⟨911500000, 68, 1, 19, 1⟩, ⟨912500000, 68, 1, 21, 1⟩, ⟨913500000, 68, 1, 23, 1⟩,
   ⟨914500000, 68, 1, 25, 1⟩, ⟨915500000, 68, 1, 27, 1⟩, ⟨916500000, 68, 1, 29, 1⟩,
   ⟨917500000, 68, 1, 31, 1⟩, ⟨918500000, 68, 1, 33, 1⟩, ⟨919500000, 68, 1, 35, 1⟩,
   ⟨920500000, 68, 1, 37, 1⟩, ⟨921500000, 68, 1, 39, 1⟩, ⟨922500000, 68, 1, 41, 1⟩,
   ⟨923500000, 68, 1, 43, 1⟩, ⟨924500000, 68, 1, 45, 1⟩, ⟨925500000, 68, 1, 47, 1⟩,
   ⟨926500000, 68, 1, 49, 1⟩, ⟨927500000, 68, 1, 51, 1⟩, ⟨903000000, 69, 2, 2, 2⟩,
   ⟨905000000, 69, 2, 6, 2⟩, ⟨907000000, 69, 2, 10, 2⟩, ⟨909000000, 69, 2, 14, 2⟩,
   ⟨911000000, 69, 2, 18, 2⟩, ⟨913000000, 69, 2, 22, 2⟩, ⟨915000000, 69, 2, 26, 2⟩,
   ⟨917000000, 69, 2, 30, 2⟩, ⟨919000000, 69, 2, 34, 2⟩, ⟨921000000, 69, 2, 38, 2⟩,
   ⟨923000000, 69, 2, 42, 2⟩, ⟨925000000, 69, 2, 46, 2⟩, ⟨927000000, 69, 2, 50, 2⟩,
   ⟨906000000, 70, 3, 8, 4⟩, ⟨910000000, 70, 3, 16, 4⟩, ⟨914000000, 70, 3, 24, 4⟩,
   ⟨918000000, 70, 3, 32, 4⟩, ⟨922000000, 70, 3, 40, 4⟩, ⟨926000000, 70, 3, 48, 4⟩,
   ⟨908000000, 71, 4, 12, 8⟩, ⟨916000000, 71, 4, 28, 8⟩, ⟨924000000, 71, 4, 44, 8⟩]

def s1gChannelListAu802112020 : List S1gChannel := s1gChannelsAu.take 23

def s1gChannelListAu802112024 : List S1gChannel := (s1gChannelsAu.drop 23).take 23

def s1gChannelListAu80211Revmf : List S1gChannel := (s1gChannelsAu.drop 23).take 26

/-- `regulatory_db`, with each of the lists that `MM_REGDB_DEFAULT_S1G_CHANNEL_LIST_AU` may name. -/
def regulatoryDb : List (List S1gChannel) :=
  [s1gChannelListAu80211Revmf, s1gChannelListAu802112020, s1gChannelListAu802112024,
    s1gChannelsCa, s1gChannelsEu, s1gChannelsGb, s1gChannelsIn, s1gChannelsJp, s1gChannelsKr,
    s1gChannelsNz, s1gChannelsUs]

end MmIotEsp32.Mmregdb
