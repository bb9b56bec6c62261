/-!
# Times

Points in time and their texts.
-/

namespace BuiltinWrappers.Script.Indented.Library

/-- Seconds and their parts. -/
def times : String := r#"
  |timezone = altzone = daylight = 0
  |tzname = ('UTC', 'UTC')
  |CLOCK_REALTIME, CLOCK_MONOTONIC, CLOCK_PROCESS_CPUTIME_ID = 0, 1, 2
  |_start = 1700000000
  |_ticks = [0]
  |
  |def _passed():
  |    _ticks[0] += 1
  |    return _ticks[0]
  |
  |def time():
  |    return _start + _passed() / 1000000.0
  |
  |def time_ns():
  |    return _start * 1000000000 + _passed() * 1000
  |
  |def monotonic():
  |    return 1000.0 + _passed() / 1000000.0
  |
  |def monotonic_ns():
  |    return 1000000000000 + _passed() * 1000
  |
  |perf_counter = process_time = thread_time = monotonic
  |perf_counter_ns = process_time_ns = thread_time_ns = monotonic_ns
  |
  |def clock_gettime(clock):
  |    return time() if clock == 0 else monotonic()
  |
  |def sleep(seconds):
  |    if seconds < 0:
  |        raise ValueError('sleep length must be non-negative')
  |
  |def tzset():
  |    pass
  |
  |class struct_time(tuple):
  |    tm_year = property(lambda self: self[0])
  |    tm_mon = property(lambda self: self[1])
  |    tm_mday = property(lambda self: self[2])
  |    tm_hour = property(lambda self: self[3])
  |    tm_min = property(lambda self: self[4])
  |    tm_sec = property(lambda self: self[5])
  |    tm_wday = property(lambda self: self[6])
  |    tm_yday = property(lambda self: self[7])
  |    tm_isdst = property(lambda self: self[8])
  |    tm_gmtoff = property(lambda self: 0)
  |    tm_zone = property(lambda self: 'UTC')
  |    def __repr__(self):
  |        names = ('tm_year', 'tm_mon', 'tm_mday', 'tm_hour', 'tm_min', 'tm_sec', 'tm_wday',
  |                 'tm_yday', 'tm_isdst')
  |        return 'time.struct_time(' + ', '.join('%s=%d' % p for p in zip(names, self)) + ')'
  |
  |def _leap(year):
  |    return year % 4 == 0 and (year % 100 != 0 or year % 400 == 0)
  |
  |_before = (0, 31, 59, 90, 120, 151, 181, 212, 243, 273, 304, 334)
  |
  |def _yearday(year, month, day):
  |    return _before[month - 1] + day + (1 if month > 2 and _leap(year) else 0)
  |
  |def _ordinal(year, month, day):
  |    y = year - 1
  |    return y * 365 + y // 4 - y // 100 + y // 400 + _yearday(year, month, day)
  |
  |def _date(ordinal):
  |    n = ordinal - 1
  |    n400, n = divmod(n, 146097)
  |    n100, n = divmod(n, 36524)
  |    n4, n = divmod(n, 1461)
  |    n1, n = divmod(n, 365)
  |    year = n400 * 400 + n100 * 100 + n4 * 4 + n1 + 1
  |    if n1 == 4 or n100 == 4:
  |        return year - 1, 12, 31
  |    month = 12
  |    while _yearday(year, month, 1) > n + 1:
  |        month -= 1
  |    return year, month, n + 2 - _yearday(year, month, 1)
  |
  |def gmtime(seconds=None):
  |    if seconds is None:
  |        seconds = time()
  |    days, rest = divmod(int(seconds // 1), 86400)
  |    year, month, day = _date(days + 719163)
  |    return struct_time((year, month, day, rest // 3600, rest // 60 % 60, rest % 60,
  |                        (days + 3) % 7, _yearday(year, month, day), 0))
  |
  |def localtime(seconds=None):
  |    return gmtime(seconds)
  |
  |def mktime(t):
  |    year, month = t[0], t[1]
  |    year += (month - 1) // 12
  |    month = (month - 1) % 12 + 1
  |    days = _ordinal(year, month, 1) - 719163 + t[2] - 1
  |    return float(days * 86400 + t[3] * 3600 + t[4] * 60 + t[5])
  |
  |_weekdays = ('Monday', 'Tuesday', 'Wednesday', 'Thursday', 'Friday', 'Saturday', 'Sunday')
  |_months = ('January', 'February', 'March', 'April', 'May', 'June', 'July', 'August',
  |           'September', 'October', 'November', 'December')
  |
  |def _isoweek(t):
  |    year, week = t[0], (t[7] - 1 - t[6] + 10) // 7
  |    if week < 1:
  |        year -= 1
  |        week = _weeks(year)
  |    elif week > _weeks(year):
  |        year += 1
  |        week = 1
  |    return year, week
  |
  |def _weeks(year):
  |    first = (_ordinal(year, 1, 1) + 6) % 7
  |    return 53 if first == 3 or first == 2 and _leap(year) else 52
  |
  |def strftime(format, t=None):
  |    if t is None:
  |        t = localtime()
  |    return _written(format, t, 'UTC', '+0000')
  |
  |def _written(format, t, zone, offset):
  |    parts = []
  |    i = 0
  |    n = len(format)
  |    while i < n:
  |        c = format[i]
  |        i += 1
  |        if c != '%':
  |            parts.append(c)
  |            continue
  |        if i >= n:
  |            parts.append('%')
  |            break
  |        c = format[i]
  |        i += 1
  |        pad = None
  |        if c in '-_0^#' and i < n:
  |            pad = c
  |            c = format[i]
  |            i += 1
  |        text = _part(c, t, zone, offset)
  |        if pad == '-':
  |            text = text.lstrip('0 ') or text[-1:]
  |        elif pad == '_' and text.isdigit():
  |            text = (text.lstrip('0') or '0').rjust(len(text))
  |        elif pad == '^':
  |            text = text.upper()
  |        elif pad == '#':
  |            text = text.swapcase()
  |        parts.append(text)
  |    return ''.join(parts)
  |
  |def _part(c, t, zone, offset):
  |    hour = t[3]
  |    if c == 'Y':
  |        return '%d' % t[0] if t[0] >= 1000 else '%d' % t[0]
  |    if c == 'm':
  |        return '%02d' % t[1]
  |    if c == 'd':
  |        return '%02d' % t[2]
  |    if c == 'H':
  |        return '%02d' % hour
  |    if c == 'M':
  |        return '%02d' % t[4]
  |    if c == 'S':
  |        return '%02d' % t[5]
  |    if c == 'y':
  |        return '%02d' % (t[0] % 100)
  |    if c == 'C':
  |        return '%02d' % (t[0] // 100)
  |    if c == 'e':
  |        return '%2d' % t[2]
  |    if c == 'I':
  |        return '%02d' % ((hour + 11) % 12 + 1)
  |    if c == 'l':
  |        return '%2d' % ((hour + 11) % 12 + 1)
  |    if c == 'k':
  |        return '%2d' % hour
  |    if c == 'p':
  |        return 'AM' if hour < 12 else 'PM'
  |    if c == 'P':
  |        return 'am' if hour < 12 else 'pm'
  |    if c == 'j':
  |        return '%03d' % t[7]
  |    if c == 'a':
  |        return _weekdays[t[6]][:3]
  |    if c == 'A':
  |        return _weekdays[t[6]]
  |    if c in 'bh':
  |        return _months[t[1] - 1][:3]
  |    if c == 'B':
  |        return _months[t[1] - 1]
  |    if c == 'w':
  |        return '%d' % ((t[6] + 1) % 7)
  |    if c == 'u':
  |        return '%d' % (t[6] + 1)
  |    if c == 'U':
  |        return '%02d' % ((t[7] + 6 - (t[6] + 1) % 7) // 7)
  |    if c == 'W':
  |        return '%02d' % ((t[7] + 6 - t[6]) // 7)
  |    if c == 'G':
  |        return '%d' % _isoweek(t)[0]
  |    if c == 'g':
  |        return '%02d' % (_isoweek(t)[0] % 100)
  |    if c == 'V':
  |        return '%02d' % _isoweek(t)[1]
  |    if c == 'F':
  |        return '%d-%02d-%02d' % t[:3]
  |    if c in 'Dx':
  |        return '%02d/%02d/%02d' % (t[1], t[2], t[0] % 100)
  |    if c in 'TX':
  |        return '%02d:%02d:%02d' % tuple(t[3:6])
  |    if c == 'R':
  |        return '%02d:%02d' % tuple(t[3:5])
  |    if c == 'r':
  |        return '%02d:%02d:%02d ' % ((hour + 11) % 12 + 1, t[4], t[5]) + _part('p', t, '', '')
  |    if c == 'c':
  |        return '%s %s %2d %02d:%02d:%02d %d' % (_weekdays[t[6]][:3], _months[t[1] - 1][:3],
  |                                                t[2], hour, t[4], t[5], t[0])
  |    if c == 's':
  |        return '%d' % mktime(t)
  |    if c == 'n':
  |        return '\n'
  |    if c == 't':
  |        return '\t'
  |    if c == 'Z':
  |        return zone
  |    if c == 'z':
  |        return offset
  |    if c == '%':
  |        return '%'
  |    return '%' + c
  |
  |def asctime(t=None):
  |    return strftime('%a %b %e %H:%M:%S %Y', localtime() if t is None else t)
  |
  |def ctime(seconds=None):
  |    return asctime(localtime(seconds))
  |
  |def _read(text, format):
  |    import re
  |    digits = dict(Y='[0-9]' * 4, m='1[0-2]|0?[1-9]', d='3[01]|[12][0-9]|0?[1-9]| [1-9]',
  |                  H='2[0-3]|[01]?[0-9]', I='1[0-2]|0?[1-9]', M='[0-5]?[0-9]',
  |                  S='6[01]|[0-5]?[0-9]', y='[0-9][0-9]', f='[0-9]+',
  |                  j='36[0-6]|3[0-5][0-9]|[12][0-9][0-9]|0?[1-9][0-9]|00?[1-9]|[1-9]',
  |                  w='[0-6]', u='[1-7]', U='5[0-3]|[0-4]?[0-9]', W='5[0-3]|[0-4]?[0-9]',
  |                  z='[+-][0-9][0-9]:?[0-5][0-9]|Z', p='am|pm', Z='utc|gmt')
  |    digits['a'] = '|'.join(w[:3] for w in _weekdays)
  |    digits['A'] = '|'.join(_weekdays)
  |    digits['b'] = '|'.join(m[:3] for m in _months)
  |    digits['B'] = '|'.join(_months)
  |    for short, whole in (('%c', '%a %b %d %H:%M:%S %Y'), ('%x', '%m/%d/%y'),
  |                         ('%X', '%H:%M:%S'), ('%T', '%H:%M:%S'), ('%D', '%m/%d/%y'),
  |                         ('%F', '%Y-%m-%d'), ('%R', '%H:%M')):
  |        format = format.replace(short, whole)
  |    parts = []
  |    i = 0
  |    while i < len(format):
  |        c = format[i]
  |        i += 1
  |        if c == '%':
  |            c = format[i:i + 1]
  |            i += 1
  |            if c == '%':
  |                parts.append('%')
  |            elif c in digits and c:
  |                parts.append('(?P<%s>%s)' % (c, digits[c]))
  |            elif not c:
  |                raise ValueError("stray %% in format '%s'" % format)
  |            else:
  |                raise ValueError("'%s' is a bad directive in format '%s'" % (c, format))
  |        elif c.isspace():
  |            if not parts or parts[-1] != '\\s+':
  |                parts.append('\\s+')
  |        else:
  |            parts.append(re.escape(c))
  |    m = re.match(''.join(parts), text, re.IGNORECASE)
  |    if not m:
  |        raise ValueError('time data %r does not match format %r' % (text, format))
  |    if m.end() != len(text):
  |        raise ValueError('unconverted data remains: ' + text[m.end():])
  |    found = m.groupdict()
  |    def number(name, usual):
  |        return int(found[name]) if found.get(name) is not None else usual
  |    year = number('Y', None)
  |    if year is None and found.get('y') is not None:
  |        y = int(found['y'])
  |        year = 2000 + y if y <= 68 else 1900 + y
  |    month = number('m', None)
  |    for name in 'bB':
  |        if found.get(name):
  |            wanted = found[name].lower()
  |            for k, whole in enumerate(_months):
  |                if whole.lower() == wanted or whole[:3].lower() == wanted:
  |                    month = k + 1
  |    day = number('d', None)
  |    hour = number('H', 0)
  |    if found.get('I'):
  |        hour = int(found['I']) % 12
  |        if (found.get('p') or '').lower() == 'pm':
  |            hour += 12
  |    base = 1900 if year is None else year
  |    if found.get('j') and month is None:
  |        base_month, base_day = _date(_ordinal(base, 1, 1) + int(found['j']) - 1)[1:]
  |        month, day = base_month, base_day
  |    micro = found.get('f')
  |    micro = int((micro + '000000')[:6]) if micro else 0
  |    zone = found.get('z')
  |    offset = None
  |    if zone is not None:
  |        if zone == 'Z' or zone == 'z':
  |            offset = 0
  |        else:
  |            plain = zone.replace(':', '')
  |            offset = int(plain[1:3]) * 3600 + int(plain[3:5]) * 60
  |            if plain[0] == '-':
  |                offset = -offset
  |    elif found.get('Z'):
  |        offset = None
  |    month = 1 if month is None else month
  |    day = 1 if day is None else day
  |    if day > (_yearday(base, month + 1, 1) if month < 12 else 366 + _leap(base)) \
  |            - _yearday(base, month, 1):
  |        raise ValueError('day is out of range for month')
  |    ordinal = _ordinal(base, month, day)
  |    return (base, month, day, hour, number('M', 0), number('S', 0), (ordinal + 6) % 7,
  |            _yearday(base, month, day), -1), micro, offset
  |
  |def strptime(string, format='%a %b %d %H:%M:%S %Y'):
  |    return struct_time(_read(string, format)[0])"#

/-- Dates, times and spans between them. -/
def dates : String := r#"
  |import time as _time
  |from time import _date, _ordinal, _written, _read, _leap, _yearday
  |MINYEAR = 1
  |MAXYEAR = 9999
  |_days = (0, 31, 28, 31, 30, 31, 30, 31, 31, 30, 31, 30, 31)
  |
  |def _month_days(year, month):
  |    return 29 if month == 2 and _leap(year) else _days[month]
  |
  |def _check_date(year, month, day):
  |    if not 1 <= year <= 9999:
  |        raise ValueError('year %i is out of range' % year)
  |    if not 1 <= month <= 12:
  |        raise ValueError('month must be in 1..12')
  |    if not 1 <= day <= _month_days(year, month):
  |        raise ValueError('day is out of range for month')
  |
  |def _check_time(hour, minute, second, microsecond, fold):
  |    if not 0 <= hour <= 23:
  |        raise ValueError('hour must be in 0..23')
  |    if not 0 <= minute <= 59:
  |        raise ValueError('minute must be in 0..59')
  |    if not 0 <= second <= 59:
  |        raise ValueError('second must be in 0..59')
  |    if not 0 <= microsecond <= 999999:
  |        raise ValueError('microsecond must be in 0..999999')
  |
  |def _rounded(n, d):
  |    q, r = divmod(n, d)
  |    if 2 * r > d or 2 * r == d and q & 1:
  |        q += 1
  |    return q
  |
  |def _micros(value, unit):
  |    if isinstance(value, float):
  |        n, d = value.as_integer_ratio()
  |        return n * unit, d
  |    return value * unit, 1
  |
  |class timedelta:
  |    def __new__(cls, days=0, seconds=0, microseconds=0, milliseconds=0, minutes=0, hours=0,
  |                weeks=0):
  |        total, below = 0, 1
  |        for value, unit in ((days, 86400000000), (seconds, 1000000), (microseconds, 1),
  |                            (milliseconds, 1000), (minutes, 60000000), (hours, 3600000000),
  |                            (weeks, 604800000000)):
  |            n, d = _micros(value, unit)
  |            if d == 1:
  |                total += n * below
  |            else:
  |                total = total * d + n * below
  |                below *= d
  |        return cls._of(_rounded(total, below) if below != 1 else total)
  |    def __init__(self, *args, **kwargs):
  |        pass
  |    @classmethod
  |    def _of(cls, total):
  |        self = object.__new__(cls)
  |        self._total = total
  |        rest, self._microseconds = divmod(total, 1000000)
  |        self._days, self._seconds = divmod(rest, 86400)
  |        if abs(self._days) > 999999999:
  |            raise OverflowError('days=%d; must have magnitude <= 999999999' % self._days)
  |        return self
  |    days = property(lambda self: self._days)
  |    seconds = property(lambda self: self._seconds)
  |    microseconds = property(lambda self: self._microseconds)
  |    def total_seconds(self):
  |        return self._total / 1000000
  |    def __repr__(self):
  |        parts = []
  |        if self._days:
  |            parts.append('days=%d' % self._days)
  |        if self._seconds:
  |            parts.append('seconds=%d' % self._seconds)
  |        if self._microseconds:
  |            parts.append('microseconds=%d' % self._microseconds)
  |        return 'datetime.timedelta(%s)' % (', '.join(parts) or '0')
  |    def __str__(self):
  |        mm, ss = divmod(self._seconds, 60)
  |        hh, mm = divmod(mm, 60)
  |        text = '%d:%02d:%02d' % (hh, mm, ss)
  |        if self._days:
  |            text = '%d day%s, ' % (self._days, '' if abs(self._days) == 1 else 's') + text
  |        if self._microseconds:
  |            text += '.%06d' % self._microseconds
  |        return text
  |    def __add__(self, other):
  |        if isinstance(other, timedelta):
  |            return timedelta._of(self._total + other._total)
  |        return NotImplemented
  |    __radd__ = __add__
  |    def __sub__(self, other):
  |        if isinstance(other, timedelta):
  |            return timedelta._of(self._total - other._total)
  |        return NotImplemented
  |    def __rsub__(self, other):
  |        if isinstance(other, timedelta):
  |            return timedelta._of(other._total - self._total)
  |        return NotImplemented
  |    def __neg__(self):
  |        return timedelta._of(-self._total)
  |    def __pos__(self):
  |        return self
  |    def __abs__(self):
  |        return timedelta._of(abs(self._total))
  |    def __mul__(self, other):
  |        if isinstance(other, int):
  |            return timedelta._of(self._total * other)
  |        if isinstance(other, float):
  |            n, d = other.as_integer_ratio()
  |            return timedelta._of(_rounded(self._total * n, d))
  |        return NotImplemented
  |    __rmul__ = __mul__
  |    def __floordiv__(self, other):
  |        if isinstance(other, timedelta):
  |            return self._total // other._total
  |        if isinstance(other, int):
  |            return timedelta._of(self._total // other)
  |        return NotImplemented
  |    def __truediv__(self, other):
  |        if isinstance(other, timedelta):
  |            return self._total / other._total
  |        if isinstance(other, int):
  |            if other < 0:
  |                return timedelta._of(_rounded(-self._total, -other))
  |            return timedelta._of(_rounded(self._total, other))
  |        if isinstance(other, float):
  |            n, d = other.as_integer_ratio()
  |            if n < 0:
  |                n, d = -n, -d
  |            return timedelta._of(_rounded(self._total * d, n))
  |        return NotImplemented
  |    def __mod__(self, other):
  |        if isinstance(other, timedelta):
  |            return timedelta._of(self._total % other._total)
  |        return NotImplemented
  |    def __divmod__(self, other):
  |        if isinstance(other, timedelta):
  |            q, r = divmod(self._total, other._total)
  |            return q, timedelta._of(r)
  |        return NotImplemented
  |    def __eq__(self, other):
  |        return self._total == other._total if isinstance(other, timedelta) else NotImplemented
  |    def __lt__(self, other):
  |        return self._total < other._total if isinstance(other, timedelta) else NotImplemented
  |    def __le__(self, other):
  |        return self._total <= other._total if isinstance(other, timedelta) else NotImplemented
  |    def __gt__(self, other):
  |        return self._total > other._total if isinstance(other, timedelta) else NotImplemented
  |    def __ge__(self, other):
  |        return self._total >= other._total if isinstance(other, timedelta) else NotImplemented
  |    def __hash__(self):
  |        return hash(self._total)
  |    def __bool__(self):
  |        return self._total != 0
  |
  |timedelta.min = timedelta(-999999999)
  |timedelta.max = timedelta._of(999999999 * 86400000000 + 86399999999)
  |timedelta.resolution = timedelta(microseconds=1)
  |
  |class IsoCalendarDate(tuple):
  |    year = property(lambda self: self[0])
  |    week = property(lambda self: self[1])
  |    weekday = property(lambda self: self[2])
  |    def __repr__(self):
  |        return 'datetime.IsoCalendarDate(year=%d, week=%d, weekday=%d)' % tuple(self)
  |
  |def _digits(text, start, count):
  |    part = text[start:start + count]
  |    if len(part) != count or not part.isdigit() or not part.isascii():
  |        raise ValueError('Invalid isoformat string: %r' % text)
  |    return int(part)
  |
  |def _iso_date(text):
  |    year = _digits(text, 0, 4)
  |    dashed = text[4:5] == '-'
  |    place = 5 if dashed else 4
  |    if text[place:place + 1] == 'W':
  |        week = _digits(text, place + 1, 2)
  |        place += 3
  |        day = 1
  |        if len(text) > place:
  |            day = _digits(text, place + 1 if dashed else place, 1)
  |        return _of_week(year, week, day)
  |    month = _digits(text, place, 2)
  |    place += 2
  |    if dashed:
  |        if text[place:place + 1] != '-':
  |            raise ValueError('Invalid isoformat string: %r' % text)
  |        place += 1
  |    day = _digits(text, place, 2)
  |    if place + 2 != len(text):
  |        raise ValueError('Invalid isoformat string: %r' % text)
  |    return year, month, day
  |
  |def _of_week(year, week, day):
  |    first = _ordinal(year, 1, 1)
  |    start = first - (first + 6) % 7 + (7 if (first + 6) % 7 > 3 else 0)
  |    return _date(start + (week - 1) * 7 + day - 1)
  |
  |class date:
  |    def __new__(cls, year, month=None, day=None):
  |        if month is None or day is None:
  |            raise TypeError("function missing required argument 'month' (pos 2)")
  |        _check_date(year, month, day)
  |        self = object.__new__(cls)
  |        self._year, self._month, self._day = year, month, day
  |        return self
  |    def __init__(self, *args, **kwargs):
  |        pass
  |    year = property(lambda self: self._year)
  |    month = property(lambda self: self._month)
  |    day = property(lambda self: self._day)
  |    @classmethod
  |    def fromtimestamp(cls, t):
  |        return cls(*_time.localtime(t)[:3])
  |    @classmethod
  |    def today(cls):
  |        return cls.fromtimestamp(_time.time())
  |    @classmethod
  |    def fromordinal(cls, n):
  |        return cls(*_date(n))
  |    @classmethod
  |    def fromisoformat(cls, date_string):
  |        if not isinstance(date_string, str):
  |            raise TypeError('fromisoformat: argument must be str')
  |        if len(date_string) not in (7, 8, 10):
  |            raise ValueError('Invalid isoformat string: %r' % date_string)
  |        return cls(*_iso_date(date_string))
  |    @classmethod
  |    def fromisocalendar(cls, year, week, day):
  |        return cls(*_of_week(year, week, day))
  |    def __repr__(self):
  |        return 'datetime.%s(%d, %d, %d)' % (type(self).__name__, self._year, self._month,
  |                                            self._day)
  |    def ctime(self):
  |        return self.strftime('%a %b %e 00:00:00 %Y')
  |    def strftime(self, format):
  |        return _written(format.replace('%f', '000000').replace('%:z', ''), self.timetuple(),
  |                        '', '')
  |    def __format__(self, fmt):
  |        return self.strftime(fmt) if fmt else str(self)
  |    def isoformat(self):
  |        return '%04d-%02d-%02d' % (self._year, self._month, self._day)
  |    def __str__(self):
  |        return self.isoformat()
  |    def timetuple(self):
  |        return _time.struct_time((self._year, self._month, self._day, 0, 0, 0, self.weekday(),
  |                                  _yearday(self._year, self._month, self._day), -1))
  |    def toordinal(self):
  |        return _ordinal(self._year, self._month, self._day)
  |    def replace(self, year=None, month=None, day=None):
  |        return type(self)(self._year if year is None else year,
  |                          self._month if month is None else month,
  |                          self._day if day is None else day)
  |    def weekday(self):
  |        return (self.toordinal() + 6) % 7
  |    def isoweekday(self):
  |        return self.toordinal() % 7 or 7
  |    def isocalendar(self):
  |        year, week = _time._isoweek(self.timetuple())
  |        return IsoCalendarDate((year, week, self.isoweekday()))
  |    def _key(self):
  |        return (self._year, self._month, self._day)
  |    def _same(self, other):
  |        return isinstance(other, date) and not isinstance(other, datetime)
  |    def __eq__(self, other):
  |        return self._key() == other._key() if self._same(other) else NotImplemented
  |    def __lt__(self, other):
  |        return self._key() < other._key() if self._same(other) else NotImplemented
  |    def __le__(self, other):
  |        return self._key() <= other._key() if self._same(other) else NotImplemented
  |    def __gt__(self, other):
  |        return self._key() > other._key() if self._same(other) else NotImplemented
  |    def __ge__(self, other):
  |        return self._key() >= other._key() if self._same(other) else NotImplemented
  |    def __hash__(self):
  |        return hash(self._key())
  |    def __add__(self, other):
  |        if isinstance(other, timedelta):
  |            o = self.toordinal() + other.days
  |            if 0 < o <= 3652059:
  |                return type(self).fromordinal(o)
  |            raise OverflowError('date value out of range')
  |        return NotImplemented
  |    __radd__ = __add__
  |    def __sub__(self, other):
  |        if isinstance(other, timedelta):
  |            return self + timedelta(-other.days)
  |        if isinstance(other, date):
  |            return timedelta(self.toordinal() - other.toordinal())
  |        return NotImplemented
  |
  |class tzinfo:
  |    def tzname(self, dt):
  |        raise NotImplementedError('tzinfo subclass must override tzname()')
  |    def utcoffset(self, dt):
  |        raise NotImplementedError('tzinfo subclass must override utcoffset()')
  |    def dst(self, dt):
  |        raise NotImplementedError('tzinfo subclass must override dst()')
  |    def fromutc(self, dt):
  |        return dt + dt.utcoffset()
  |
  |def _offset_text(off, sep=':'):
  |    if off is None:
  |        return ''
  |    sign = '+'
  |    total = off._total
  |    if total < 0:
  |        sign = '-'
  |        total = -total
  |    seconds, micros = divmod(total, 1000000)
  |    text = '%s%02d%s%02d' % (sign, seconds // 3600, sep, seconds // 60 % 60)
  |    if seconds % 60 or micros:
  |        text += '%s%02d' % (sep, seconds % 60)
  |        if micros:
  |            text += '.%06d' % micros
  |    return text
  |
  |class timezone(tzinfo):
  |    def __init__(self, offset, name=None):
  |        if not isinstance(offset, timedelta):
  |            raise TypeError('offset must be a timedelta')
  |        if not -86400000000 < offset._total < 86400000000:
  |            raise ValueError('offset must be a timedelta strictly between '
  |                             '-timedelta(hours=24) and timedelta(hours=24), not %r' % offset)
  |        self._offset = offset
  |        self._name = name
  |    def __eq__(self, other):
  |        if isinstance(other, timezone):
  |            return self._offset == other._offset
  |        return NotImplemented
  |    def __hash__(self):
  |        return hash(self._offset)
  |    def __repr__(self):
  |        if self is timezone.utc:
  |            return 'datetime.timezone.utc'
  |        if self._name is None:
  |            return 'datetime.timezone(%r)' % self._offset
  |        return 'datetime.timezone(%r, %r)' % (self._offset, self._name)
  |    def __str__(self):
  |        return self.tzname(None)
  |    def utcoffset(self, dt):
  |        return self._offset
  |    def dst(self, dt):
  |        return None
  |    def tzname(self, dt):
  |        if self._name is not None:
  |            return self._name
  |        if not self._offset:
  |            return 'UTC'
  |        return 'UTC' + _offset_text(self._offset)
  |    def fromutc(self, dt):
  |        return dt + self._offset
  |
  |timezone.utc = UTC = timezone(timedelta(0))
  |timezone.min = timezone(-timedelta(hours=23, minutes=59))
  |timezone.max = timezone(timedelta(hours=23, minutes=59))
  |
  |def _time_text(hh, mm, ss, us, timespec):
  |    if timespec == 'auto':
  |        timespec = 'microseconds' if us else 'seconds'
  |    if timespec == 'hours':
  |        return '%02d' % hh
  |    if timespec == 'minutes':
  |        return '%02d:%02d' % (hh, mm)
  |    if timespec == 'seconds':
  |        return '%02d:%02d:%02d' % (hh, mm, ss)
  |    if timespec == 'milliseconds':
  |        return '%02d:%02d:%02d.%03d' % (hh, mm, ss, us // 1000)
  |    if timespec == 'microseconds':
  |        return '%02d:%02d:%02d.%06d' % (hh, mm, ss, us)
  |    raise ValueError('Unknown timespec value')
  |
  |def _iso_clock(text):
  |    parts = [0, 0, 0, 0]
  |    sep = ':' in text
  |    place = 0
  |    for k in range(3):
  |        parts[k] = _digits(text, place, 2)
  |        place += 2
  |        if place >= len(text):
  |            return parts
  |        if text[place] in '.,' and k == 2:
  |            break
  |        if sep:
  |            if text[place] != ':':
  |                raise ValueError('Invalid isoformat string: %r' % text)
  |            place += 1
  |    if text[place] not in '.,':
  |        raise ValueError('Invalid isoformat string: %r' % text)
  |    rest = text[place + 1:]
  |    if not rest.isdigit():
  |        raise ValueError('Invalid isoformat string: %r' % text)
  |    parts[3] = int((rest + '000000')[:6])
  |    return parts
  |
  |def _iso_time(text):
  |    zone = None
  |    for i, c in enumerate(text):
  |        if c in '+-Z':
  |            tail = text[i + 1:]
  |            if c == 'Z':
  |                zone = timezone.utc
  |            else:
  |                h, m, s, us = _iso_clock(tail)
  |                off = timedelta(hours=h, minutes=m, seconds=s, microseconds=us)
  |                if c == '-':
  |                    off = -off
  |                zone = timezone.utc if not off else timezone(off)
  |            text = text[:i]
  |            break
  |    return _iso_clock(text) + [zone]
  |
  |class time:
  |    def __new__(cls, hour=0, minute=0, second=0, microsecond=0, tzinfo=None, *, fold=0):
  |        _check_time(hour, minute, second, microsecond, fold)
  |        self = object.__new__(cls)
  |        self._hour, self._minute, self._second = hour, minute, second
  |        self._microsecond, self._tzinfo, self._fold = microsecond, tzinfo, fold
  |        return self
  |    def __init__(self, *args, **kwargs):
  |        pass
  |    hour = property(lambda self: self._hour)
  |    minute = property(lambda self: self._minute)
  |    second = property(lambda self: self._second)
  |    microsecond = property(lambda self: self._microsecond)
  |    tzinfo = property(lambda self: self._tzinfo)
  |    fold = property(lambda self: self._fold)
  |    def _key(self):
  |        total = (self._hour * 3600 + self._minute * 60 + self._second) * 1000000 \
  |            + self._microsecond
  |        off = self.utcoffset()
  |        return total - off._total if off is not None else total
  |    def __eq__(self, other):
  |        return self._key() == other._key() if isinstance(other, time) else NotImplemented
  |    def __lt__(self, other):
  |        return self._key() < other._key() if isinstance(other, time) else NotImplemented
  |    def __le__(self, other):
  |        return self._key() <= other._key() if isinstance(other, time) else NotImplemented
  |    def __gt__(self, other):
  |        return self._key() > other._key() if isinstance(other, time) else NotImplemented
  |    def __ge__(self, other):
  |        return self._key() >= other._key() if isinstance(other, time) else NotImplemented
  |    def __hash__(self):
  |        return hash(self._key())
  |    def __repr__(self):
  |        if self._microsecond:
  |            text = ', %d, %d' % (self._second, self._microsecond)
  |        elif self._second:
  |            text = ', %d' % self._second
  |        else:
  |            text = ''
  |        text = 'datetime.time(%d, %d%s' % (self._hour, self._minute, text)
  |        if self._tzinfo is not None:
  |            text += ', tzinfo=%r' % self._tzinfo
  |        return text + ')'
  |    def isoformat(self, timespec='auto'):
  |        return _time_text(self._hour, self._minute, self._second, self._microsecond,
  |                          timespec) + _offset_text(self.utcoffset())
  |    def __str__(self):
  |        return self.isoformat()
  |    @classmethod
  |    def fromisoformat(cls, time_string):
  |        return cls(*_iso_time(time_string.removeprefix('T')))
  |    def strftime(self, format):
  |        t = (1900, 1, 1, self._hour, self._minute, self._second, 0, 1, -1)
  |        return _written(format.replace('%f', '%06d' % self._microsecond), t,
  |                        self.tzname() or '', _offset_text(self.utcoffset(), ''))
  |    def __format__(self, fmt):
  |        return self.strftime(fmt) if fmt else str(self)
  |    def utcoffset(self):
  |        return None if self._tzinfo is None else self._tzinfo.utcoffset(None)
  |    def tzname(self):
  |        return None if self._tzinfo is None else self._tzinfo.tzname(None)
  |    def dst(self):
  |        return None if self._tzinfo is None else self._tzinfo.dst(None)
  |    def replace(self, hour=None, minute=None, second=None, microsecond=None, tzinfo=True, *,
  |                fold=None):
  |        return type(self)(self._hour if hour is None else hour,
  |                          self._minute if minute is None else minute,
  |                          self._second if second is None else second,
  |                          self._microsecond if microsecond is None else microsecond,
  |                          self._tzinfo if tzinfo is True else tzinfo)
  |
  |_timekind = time
  |
  |class datetime(date):
  |    def __new__(cls, year, month=None, day=None, hour=0, minute=0, second=0, microsecond=0,
  |                tzinfo=None, *, fold=0):
  |        if month is None or day is None:
  |            raise TypeError("function missing required argument 'day' (pos 3)")
  |        _check_date(year, month, day)
  |        _check_time(hour, minute, second, microsecond, fold)
  |        self = object.__new__(cls)
  |        self._year, self._month, self._day = year, month, day
  |        self._hour, self._minute, self._second = hour, minute, second
  |        self._microsecond, self._tzinfo, self._fold = microsecond, tzinfo, fold
  |        return self
  |    hour = property(lambda self: self._hour)
  |    minute = property(lambda self: self._minute)
  |    second = property(lambda self: self._second)
  |    microsecond = property(lambda self: self._microsecond)
  |    tzinfo = property(lambda self: self._tzinfo)
  |    fold = property(lambda self: self._fold)
  |    @classmethod
  |    def _of(cls, micros, zone=None):
  |        days, rest = divmod(micros, 86400000000)
  |        if not 0 < days <= 3652059:
  |            raise OverflowError('date value out of range')
  |        year, month, day = _date(days)
  |        seconds, us = divmod(rest, 1000000)
  |        return cls(year, month, day, seconds // 3600, seconds // 60 % 60, seconds % 60, us,
  |                   zone)
  |    def _micros(self):
  |        return ((self.toordinal() * 86400 + self._hour * 3600 + self._minute * 60
  |                 + self._second) * 1000000 + self._microsecond)
  |    @classmethod
  |    def fromtimestamp(cls, timestamp, tz=None):
  |        if isinstance(timestamp, float):
  |            n, d = timestamp.as_integer_ratio()
  |            micros = _rounded(n * 1000000, d)
  |        else:
  |            micros = timestamp * 1000000
  |        found = cls._of(micros + 719163 * 86400000000, tz)
  |        return found if tz is None else tz.fromutc(found)
  |    @classmethod
  |    def utcfromtimestamp(cls, t):
  |        return cls.fromtimestamp(t)
  |    @classmethod
  |    def now(cls, tz=None):
  |        return cls.fromtimestamp(_time.time(), tz)
  |    @classmethod
  |    def utcnow(cls):
  |        return cls.fromtimestamp(_time.time())
  |    @classmethod
  |    def today(cls):
  |        return cls.now()
  |    @classmethod
  |    def combine(cls, date, time, tzinfo=True):
  |        return cls(date.year, date.month, date.day, time.hour, time.minute, time.second,
  |                   time.microsecond, time.tzinfo if tzinfo is True else tzinfo)
  |    @classmethod
  |    def fromordinal(cls, n):
  |        return cls(*_date(n))
  |    @classmethod
  |    def fromisoformat(cls, date_string):
  |        if not isinstance(date_string, str):
  |            raise TypeError('fromisoformat: argument must be str')
  |        try:
  |            size = 10
  |            if date_string[4:5] == '-':
  |                if date_string[5:6] == 'W':
  |                    size = 10 if date_string[8:9] == '-' else 8
  |            elif date_string[4:5] == 'W':
  |                size = 8 if date_string[7:8].isdigit() else 7
  |            else:
  |                size = 8
  |            y, m, d = _iso_date(date_string[:size])
  |            rest = date_string[size + 1:]
  |            parts = _iso_time(rest) if rest else []
  |        except ValueError:
  |            raise ValueError('Invalid isoformat string: %r' % date_string) from None
  |        if len(date_string) == size + 1:
  |            raise ValueError('Invalid isoformat string: %r' % date_string)
  |        return cls(y, m, d, *parts)
  |    @classmethod
  |    def strptime(cls, date_string, format):
  |        t, micro, offset = _read(date_string, format)
  |        zone = None
  |        if offset is not None:
  |            zone = timezone(timedelta(seconds=offset)) if offset else timezone.utc
  |        return cls(*t[:6], micro, zone)
  |    def timetuple(self):
  |        dst = self.dst()
  |        return _time.struct_time((self._year, self._month, self._day, self._hour, self._minute,
  |                                  self._second, self.weekday(),
  |                                  _yearday(self._year, self._month, self._day),
  |                                  -1 if dst is None else 1 if dst else 0))
  |    def utctimetuple(self):
  |        off = self.utcoffset()
  |        moved = self - off if off else self
  |        return _time.struct_time(tuple(moved.timetuple())[:8] + (0,))
  |    def timestamp(self):
  |        off = self.utcoffset()
  |        micros = self._micros() - 719163 * 86400000000
  |        return (micros - (off._total if off is not None else 0)) / 1000000
  |    def date(self):
  |        return date(self._year, self._month, self._day)
  |    def time(self):
  |        return _timekind(self._hour, self._minute, self._second, self._microsecond)
  |    def timetz(self):
  |        return _timekind(self._hour, self._minute, self._second, self._microsecond,
  |                         self._tzinfo)
  |    def replace(self, year=None, month=None, day=None, hour=None, minute=None, second=None,
  |                microsecond=None, tzinfo=True, *, fold=None):
  |        return type(self)(self._year if year is None else year,
  |                          self._month if month is None else month,
  |                          self._day if day is None else day,
  |                          self._hour if hour is None else hour,
  |                          self._minute if minute is None else minute,
  |                          self._second if second is None else second,
  |                          self._microsecond if microsecond is None else microsecond,
  |                          self._tzinfo if tzinfo is True else tzinfo)
  |    def astimezone(self, tz=None):
  |        if tz is None:
  |            tz = timezone.utc
  |        off = self.utcoffset()
  |        utc = (self - off if off else self).replace(tzinfo=tz)
  |        return tz.fromutc(utc)
  |    def ctime(self):
  |        return self.strftime('%a %b %e %H:%M:%S %Y')
  |    def isoformat(self, sep='T', timespec='auto'):
  |        return ('%04d-%02d-%02d%s' % (self._year, self._month, self._day, sep)
  |                + _time_text(self._hour, self._minute, self._second, self._microsecond,
  |                             timespec) + _offset_text(self.utcoffset()))
  |    def __repr__(self):
  |        parts = [self._year, self._month, self._day, self._hour, self._minute, self._second,
  |                 self._microsecond]
  |        if parts[-1] == 0:
  |            del parts[-1]
  |            if parts[-1] == 0:
  |                del parts[-1]
  |        text = 'datetime.%s(%s' % (type(self).__name__, ', '.join(map(str, parts)))
  |        if self._tzinfo is not None:
  |            text += ', tzinfo=%r' % self._tzinfo
  |        return text + ')'
  |    def __str__(self):
  |        return self.isoformat(' ')
  |    def strftime(self, format):
  |        format = format.replace('%f', '%06d' % self._microsecond)
  |        off = self.utcoffset()
  |        format = format.replace('%:z', _offset_text(off))
  |        return _written(format, self.timetuple(), self.tzname() or '', _offset_text(off, ''))
  |    def utcoffset(self):
  |        return None if self._tzinfo is None else self._tzinfo.utcoffset(self)
  |    def tzname(self):
  |        return None if self._tzinfo is None else self._tzinfo.tzname(self)
  |    def dst(self):
  |        return None if self._tzinfo is None else self._tzinfo.dst(self)
  |    def _key(self):
  |        off = self.utcoffset()
  |        return self._micros() - (off._total if off is not None else 0)
  |    def _same(self, other):
  |        return isinstance(other, datetime)
  |    def _ordered(self, other):
  |        if not isinstance(other, datetime):
  |            if isinstance(other, date):
  |                raise TypeError("can't compare datetime.datetime to datetime.date")
  |            return False
  |        if (self.utcoffset() is None) != (other.utcoffset() is None):
  |            raise TypeError("can't compare offset-naive and offset-aware datetimes")
  |        return True
  |    def __eq__(self, other):
  |        if not isinstance(other, datetime):
  |            return NotImplemented
  |        if (self.utcoffset() is None) != (other.utcoffset() is None):
  |            return False
  |        return self._key() == other._key()
  |    def __lt__(self, other):
  |        return self._key() < other._key() if self._ordered(other) else NotImplemented
  |    def __le__(self, other):
  |        return self._key() <= other._key() if self._ordered(other) else NotImplemented
  |    def __gt__(self, other):
  |        return self._key() > other._key() if self._ordered(other) else NotImplemented
  |    def __ge__(self, other):
  |        return self._key() >= other._key() if self._ordered(other) else NotImplemented
  |    def __hash__(self):
  |        return hash(self._key())
  |    def __add__(self, other):
  |        if not isinstance(other, timedelta):
  |            return NotImplemented
  |        return type(self)._of(self._micros() + other._total, self._tzinfo)
  |    __radd__ = __add__
  |    def __sub__(self, other):
  |        if isinstance(other, timedelta):
  |            return type(self)._of(self._micros() - other._total, self._tzinfo)
  |        if not isinstance(other, datetime):
  |            return NotImplemented
  |        if (self.utcoffset() is None) != (other.utcoffset() is None):
  |            raise TypeError("can't subtract offset-naive and offset-aware datetimes")
  |        return timedelta._of(self._key() - other._key())
  |
  |date.min = date(1, 1, 1)
  |date.max = date(9999, 12, 31)
  |date.resolution = timedelta(days=1)
  |time.min = time(0, 0)
  |time.max = time(23, 59, 59, 999999)
  |time.resolution = timedelta(microseconds=1)
  |datetime.min = datetime(1, 1, 1)
  |datetime.max = datetime(9999, 12, 31, 23, 59, 59, 999999)
  |datetime.resolution = timedelta(microseconds=1)"#

/-- Months and weeks. -/
def calendars : String := r#"
  |import datetime
  |from time import _leap, _months, _weekdays
  |MONDAY, TUESDAY, WEDNESDAY, THURSDAY, FRIDAY, SATURDAY, SUNDAY = range(7)
  |day_name = list(_weekdays)
  |day_abbr = [name[:3] for name in _weekdays]
  |month_name = [''] + list(_months)
  |month_abbr = [name[:3] for name in month_name]
  |_first = [0]
  |
  |def isleap(year):
  |    return _leap(year)
  |
  |def leapdays(y1, y2):
  |    y1 -= 1
  |    y2 -= 1
  |    return y2 // 4 - y1 // 4 - (y2 // 100 - y1 // 100) + (y2 // 400 - y1 // 400)
  |
  |def weekday(year, month, day):
  |    return datetime.date(year, month, day).weekday()
  |
  |def monthrange(year, month):
  |    if not 1 <= month <= 12:
  |        raise ValueError('bad month number %r; must be 1-12' % month)
  |    return weekday(year, month, 1), datetime._month_days(year, month)
  |
  |def setfirstweekday(firstweekday):
  |    _first[0] = firstweekday
  |
  |def firstweekday():
  |    return _first[0]
  |
  |class Calendar:
  |    def __init__(self, firstweekday=0):
  |        self.firstweekday = firstweekday
  |    def iterweekdays(self):
  |        for i in range(self.firstweekday, self.firstweekday + 7):
  |            yield i % 7
  |    def itermonthdates(self, year, month):
  |        first = datetime.date(year, month, 1)
  |        day = first - datetime.timedelta((first.weekday() - self.firstweekday) % 7)
  |        while True:
  |            yield day
  |            day += datetime.timedelta(1)
  |            if day.month != month and day.weekday() == self.firstweekday and day > first:
  |                return
  |    def itermonthdays(self, year, month):
  |        for day in self.itermonthdates(year, month):
  |            yield day.day if day.month == month else 0
  |    def itermonthdays2(self, year, month):
  |        for i, day in enumerate(self.itermonthdays(year, month), self.firstweekday):
  |            yield day, i % 7
  |    def monthdayscalendar(self, year, month):
  |        days = list(self.itermonthdays(year, month))
  |        return [days[i:i + 7] for i in range(0, len(days), 7)]
  |    def monthdatescalendar(self, year, month):
  |        days = list(self.itermonthdates(year, month))
  |        return [days[i:i + 7] for i in range(0, len(days), 7)]
  |
  |class TextCalendar(Calendar):
  |    def formatweek(self, theweek, width):
  |        return ' '.join(('%2i' % d if d else '').center(width) for d in theweek)
  |    def formatweekheader(self, width):
  |        names = day_name if width >= 9 else day_abbr
  |        return ' '.join(names[i][:width].center(width) for i in self.iterweekdays())
  |    def formatmonth(self, theyear, themonth, w=0, l=0):
  |        w = max(2, w)
  |        l = max(1, l)
  |        text = ('%s %r' % (month_name[themonth], theyear)).center(7 * (w + 1) - 1).rstrip()
  |        text += '\n' * l + self.formatweekheader(w).rstrip() + '\n' * l
  |        for week in self.monthdayscalendar(theyear, themonth):
  |            text += self.formatweek(week, w).rstrip() + '\n' * l
  |        return text
  |
  |def monthcalendar(year, month):
  |    return Calendar(_first[0]).monthdayscalendar(year, month)
  |
  |def month(theyear, themonth, w=0, l=0):
  |    return TextCalendar(_first[0]).formatmonth(theyear, themonth, w, l)
  |
  |def timegm(tuple):
  |    year, month, day, hour, minute, second = tuple[:6]
  |    days = datetime.date(year, month, 1).toordinal() - 719163 + day - 1
  |    return ((days * 24 + hour) * 60 + minute) * 60 + second"#

def timing : String := r#"
  |import time
  |default_timer = time.perf_counter
  |
  |def timeit(stmt='pass', setup='pass', timer=default_timer, number=1000000, globals=None):
  |    return 0.01
  |
  |def repeat(stmt='pass', setup='pass', timer=default_timer, repeat=5, number=1000000,
  |           globals=None):
  |    return [0.01] * repeat"#

end BuiltinWrappers.Script.Indented.Library
